import FlatQuery.Proofs.Query.Located.Reader
import FlatQuery.Proofs.Query.Markers

/-!
# Clauses by offsets

The search for markers looks at a word, the one before it and the one after it
(`markAt`), so it takes no word that is not there (`findMarkers_eq`). A marker
never begins before the last one ends, as the kind of a join ends no other
marker, and what lies between two markers is the body of a clause
(`cuts_marks`). No reading by offsets goes out of range (`parse_in_range`).
-/

namespace FlatQuery

open Text

/-! ## The gap before the first word -/

theorem untypedJoin?_congr {p p' : Option Word} {ws ws' : List Word}
    (hp : p.map Word.text = p'.map Word.text) (h : ws.map Word.text = ws'.map Word.text) :
    (untypedJoin? p ws).map Word.text = (untypedJoin? p' ws').map Word.text := by
  induction ws generalizing p p' ws' with
  | nil =>
    rw [List.map_nil, eq_comm, List.map_eq_nil_iff] at h
    rw [h]
    rfl
  | cons w ws ih =>
    obtain ⟨w', ws', rfl, hw, hws⟩ := List.map_eq_cons_iff.mp h.symm
    have his : ∀ k, w'.is k = w.is k := fun k => by rw [Word.is, Word.is, hw]
    have hnext : ws'.head?.any (·.is "BY") = ws.head?.any (·.is "BY") := by
      have hhead := congrArg (·.head?.any fun t => sameLetters t "BY".toList) hws
      simpa [Option.any_map, Function.comp_def, Word.is] using hhead
    have htyped : (p'.any fun v => (JoinKind.ofWord? v.text).isSome) =
        p.any fun v => (JoinKind.ofWord? v.text).isSome := by
      have hany := congrArg (Option.any fun t => (JoinKind.ofWord? t).isSome) hp.symm
      simpa [Option.any_map, Function.comp_def] using hany
    have hreported : (p.getD w).text = (p'.getD w').text := by
      cases p <;> cases p' <;> simp_all
    unfold untypedJoin?
    rw [his, his, his, hnext, htyped]
    split
    · rfl
    · split
      · rfl
      · split
        · rw [Option.map_some, Option.map_some, hreported]
        · exact ih (by rw [Option.map_some, Option.map_some, hw]) hws.symm

theorem untypedJoin?_alike {ws ws' : List Word} (h : ws.map Word.text = ws'.map Word.text) :
    (untypedJoin? none ws = none ∧ untypedJoin? none ws' = none) ∨
      ∃ w w', untypedJoin? none ws = some w ∧ untypedJoin? none ws' = some w' ∧
        w.text = w'.text := by
  have htexts := untypedJoin?_congr (p := none) rfl h
  cases hws : untypedJoin? none ws with
  | none =>
    rw [hws, Option.map_none, eq_comm, Option.map_eq_none_iff] at htexts
    exact .inl ⟨rfl, htexts⟩
  | some w =>
    rw [hws, Option.map_some, eq_comm, Option.map_eq_some_iff] at htexts
    obtain ⟨w', hws', htext⟩ := htexts
    exact .inr ⟨w, w', rfl, hws', htext.symm⟩

theorem segments_ungap (ws : List Word) :
    segments (ungap ws) = (ungap (segments ws).1, (segments ws).2) := by
  cases ws with
  | nil => rfl
  | cons w ws =>
    have hmarker : marker? ⟨[], w.text⟩ (segments ws).1 = marker? w (segments ws).1 := rfl
    simp only [ungap, segments, hmarker]
    cases marker? w (segments ws).1 <;> rfl

theorem ofWords_ungap (ws : List Word) : Outline.ofWords (ungap ws) =
    (Outline.ofWords ws).map fun o => { o with head := ungap o.head } := by
  unfold Outline.ofWords
  rw [segments_ungap]
  obtain ⟨hungap, hws⟩ | ⟨v, w, hungap, hws, htext⟩ := untypedJoin?_alike (map_text_ungap ws)
  · rw [hungap, hws]
    cases horder : Outline.checkOrder ((segments ws).2.map (·.1.clause)) with
    | error e => simp [horder, bind, Except.bind, Except.map]
    | ok u =>
      cases hbodies : Outline.checkBodies (segments ws).2 with
      | error e => simp [horder, hbodies, bind, Except.bind, Except.map]
      | ok u => simp [horder, hbodies, bind, Except.bind, Except.map, pure, Except.pure]
  · rw [hungap, hws]
    simp only [htext]
    rfl

namespace Located

/-- A span as a word, without the gap before it. -/
def word (w : Span) : Word := ⟨[], w.text⟩

@[simp] theorem text_word (w : Span) : (word w).text = w.text := rfl

@[simp] theorem is_word (w : Span) (k : String) : (word w).is k = w.is k := rfl

/-! ## The search for markers -/

/-- The marker that the words up to `w` complete, or that begins at `w`. -/
def markAt (previous : Option Span) (w : Span) (next : Option Span) : Option MarkerSpan :=
  if w.is "JOIN" then
    previous.bind fun v => (JoinKind.ofWord? v.text).map fun kind => ⟨.join kind, v.start, w.stop⟩
  else if w.is "WHERE" then some ⟨.filter, w.start, w.stop⟩
  else if w.is "GROUP" then (next.filter (·.is "BY")).map fun v => ⟨.group, w.start, v.stop⟩
  else none

def marks (previous : Option Span) : List Span → List MarkerSpan
  | [] => []
  | w :: ws => (markAt previous w ws.head?).toList ++ marks (some w) ws

theorem is_false {w : Span} {k : String} (h : w.is k = true) {j : String}
    (hne : upper k.toList ≠ upper j.toList) : w.is j = false :=
  Word.is_false (w := word w) h hne

section

variable (done : List Span) (w : Span) (ws : List Span) (found : List MarkerSpan)

theorem nth_done : nth (done ++ w :: ws) done.length = .ok w := by
  simp [nth, inRange]

theorem previous_done : previous (done ++ w :: ws) done.length = .ok done.getLast? := by
  induction done using List.reverseRecOn with
  | nil => rfl
  | append_singleton done v _ =>
    have hnth := nth_done done v (w :: ws)
    simp only [previous, List.length_append, List.length_singleton, Nat.add_one_ne_zero, if_false,
      Nat.add_sub_cancel, List.append_assoc, List.singleton_append, hnth, List.getLast?_concat]
    rfl

-- the search may look at the second word of GROUP BY as well, where nothing is found
theorem findMarkers_by (h : w.is "BY" = true) :
    findMarkers (done ++ w :: ws) done.length found =
      findMarkers (done ++ w :: ws) (done.length + 1) found := by
  have hlt : done.length < (done ++ w :: ws).length := by simp
  conv => lhs; rw [findMarkers]
  rw [if_pos hlt, nth_done]
  simp [is_false h (j := "JOIN") (by decide), is_false h (j := "WHERE") (by decide),
    is_false h (j := "GROUP") (by decide)]

/-- What one turn of the search does. -/
theorem findMarkers_step :
    findMarkers (done ++ w :: ws) done.length found =
      if w.is "JOIN" && (markAt done.getLast? w ws.head?).isNone && !pastJoins found then
        reject (.untypedJoin (String.ofList (done.getLast?.getD w).text))
      else findMarkers (done ++ w :: ws) (done.length + 1)
        (found ++ (markAt done.getLast? w ws.head?).toList) := by
  have hlt : done.length < (done ++ w :: ws).length := by simp
  conv => lhs; rw [findMarkers]
  rw [if_pos hlt, nth_done, ok_bind, previous_done, ok_bind]
  by_cases hjoin : w.is "JOIN" = true
  · cases hprevious : done.getLast? with
    | none => cases pastJoins found <;> simp [hjoin, markAt]
    | some v =>
      cases hkind : JoinKind.ofWord? v.text with
      | none => cases pastJoins found <;> simp [hjoin, hkind, markAt]
      | some kind => simp [hjoin, hkind, markAt]
  · by_cases hwhere : w.is "WHERE" = true
    · simp [hjoin, hwhere, markAt]
    · by_cases hgroup : w.is "GROUP" = true
      · cases ws with
        | nil => simp [hjoin, hwhere, hgroup, markAt]
        | cons v ws =>
          by_cases hby : v.is "BY" = true
          · have hnth := nth_done (done ++ [w]) v ws
            have hskip :=
              findMarkers_by (done ++ [w]) v ws (found ++ [⟨.group, w.start, v.stop⟩]) hby
            rw [List.append_assoc, List.singleton_append] at hnth hskip
            rw [List.length_append, List.length_singleton] at hnth hskip
            simp [hjoin, hwhere, hgroup, hby, markAt, hnth, hskip, Option.filter_some]
          · simp [hjoin, hwhere, hgroup, hby, markAt, Option.filter_some]
      · simp [hjoin, hwhere, hgroup, markAt]

theorem pastJoins_append (ms : List MarkerSpan) :
    pastJoins (found ++ ms) = (pastJoins found || pastJoins ms) := List.any_append

end

/-- One turn of the scan for joins, by the marker that is found. -/
theorem untypedJoin?_word (p : Option Span) (w : Span) (ws : List Span) :
    untypedJoin? (p.map word) ((w :: ws).map word) =
      if w.is "JOIN" && (markAt p w ws.head?).isNone then some (word (p.getD w))
      else if pastJoins (markAt p w ws.head?).toList then none
      else untypedJoin? (some (word w)) (ws.map word) := by
  rw [List.map_cons, untypedJoin?]
  by_cases hjoin : w.is "JOIN" = true
  · have hwhere : w.is "WHERE" = false := is_false hjoin (by decide)
    have hgroup : w.is "GROUP" = false := is_false hjoin (by decide)
    cases p with
    | none => simp [hjoin, hwhere, hgroup, markAt]
    | some v =>
      cases hkind : JoinKind.ofWord? v.text with
      | none => simp [hjoin, hwhere, hgroup, hkind, markAt]
      | some kind => simp [hjoin, hwhere, hgroup, hkind, markAt, pastJoins, Marker.clause]
  · by_cases hwhere : w.is "WHERE" = true
    · simp [hjoin, hwhere, markAt, pastJoins, Marker.clause]
    · by_cases hgroup : w.is "GROUP" = true
      · cases ws with
        | nil => simp [hjoin, hwhere, hgroup, markAt, pastJoins]
        | cons v ws =>
          by_cases hby : v.is "BY" = true
          · simp [hjoin, hwhere, hgroup, hby, markAt, Option.filter_some, pastJoins, Marker.clause]
          · simp [hjoin, hwhere, hgroup, hby, markAt, Option.filter_some, pastJoins]
      · simp [hjoin, hwhere, hgroup, markAt, pastJoins]

/-- The search finds the markers, or rejects the first join without a kind. -/
theorem findMarkers_eq (done ws : List Span) (found : List MarkerSpan) :
    findMarkers (done ++ ws) done.length found =
      match
        if pastJoins found then none else untypedJoin? (done.getLast?.map word) (ws.map word)
      with
      | some w => reject (.untypedJoin (String.ofList w.text))
      | none => .ok (found ++ marks done.getLast? ws) := by
  induction ws generalizing done found with
  | nil =>
    rw [findMarkers]
    simp [untypedJoin?, marks]
    rfl
  | cons w ws ih =>
    have hrest := ih (done ++ [w]) (found ++ (markAt done.getLast? w ws.head?).toList)
    rw [List.append_assoc, List.singleton_append, List.length_append, List.length_singleton,
      List.getLast?_concat, Option.map_some, pastJoins_append] at hrest
    rw [findMarkers_step, hrest, marks, untypedJoin?_word]
    cases pastJoins found with
    | true => simp
    | false =>
      by_cases hfault : (w.is "JOIN" && (markAt done.getLast? w ws.head?).isNone) = true
      · simp [hfault]
      · cases pastJoins (markAt done.getLast? w ws.head?).toList <;> simp [hfault]

/-! ## Between the markers -/

theorem ofWord?_of_begins {m : Marker} {kw : List Word} (h : Begins m kw) :
    ∀ w ∈ kw.getLast?, JoinKind.ofWord? w.text = none := by
  have hnone : ∀ {w : Word} {k : String}, k ∈ ["WHERE", "GROUP", "BY", "JOIN"] → w.is k = true →
      JoinKind.ofWord? w.text = none := by
    intro w k hk hw
    rw [Option.eq_none_iff_forall_ne_some]
    intro kind hkind
    have hkind' : w.is kind.name = true := JoinKind.ofWord?_eq_some_iff.mp hkind
    rw [Word.is_false hkind' (kind.upper_name_ne hk)] at hw
    cases hw
  cases h with
  | filter h => simpa using hnone (by simp) h
  | group _ h => simpa using hnone (by simp) h
  | join _ h => simpa using hnone (by simp) h

theorem markAt_eq_none {p next : Option Span} {w : Span}
    (hjoin : w.is "JOIN" = true → ∀ v ∈ p, JoinKind.ofWord? v.text = none)
    (hwhere : w.is "WHERE" = false)
    (hgroup : ∀ v ∈ next, ¬ (w.is "GROUP" = true ∧ v.is "BY" = true)) : markAt p w next = none := by
  unfold markAt
  by_cases hj : w.is "JOIN" = true
  · rw [if_pos hj]
    cases p with
    | none => rfl
    | some v => simp [hjoin hj v rfl]
  · by_cases hg : w.is "GROUP" = true
    · cases next with
      | none => simp [hj, hwhere]
      | some v =>
        have hby : ¬ v.is "BY" = true := fun hby => hgroup v rfl ⟨hg, hby⟩
        simp [hj, hwhere, hby, Option.filter_some]
    · simp [hj, hwhere, hg]

theorem exists_head_place {n : Nat} {ws : List Word} {v : Span} (h : v ∈ (place n ws).head?) :
    ∃ w ∈ ws.head?, v.text = w.text := by
  cases ws with
  | nil => cases h
  | cons w ws =>
    cases h
    exact ⟨w, rfl, rfl⟩

/-- No marker begins among ordinary words, if the word before is no kind of a join. -/
theorem exists_marks_ordinary {xs ys : List Word} (h : Ordinary xs)
    (hy : ∀ v ∈ ys.head?, v.is "BY" = false) {p : Option Span}
    (hp : ∀ u ∈ p, ∀ v ∈ xs.head?, v.is "JOIN" = true → JoinKind.ofWord? u.text = none) (n : Nat) :
    ∃ q, marks p (place n (xs ++ ys)) = marks q (place (n + bytes (spell xs)) ys) := by
  induction xs generalizing p n with
  | nil => exact ⟨p, rfl⟩
  | cons x xs ih =>
    obtain ⟨hnext, hchain⟩ := List.isChain_cons.mp h.2
    have hwhere : x.is "WHERE" = false := h.1 x (by simp)
    have hby : ∀ v ∈ (xs ++ ys).head?, ¬ (x.is "GROUP" = true ∧ v.is "BY" = true) := by
      intro v hv hopens
      cases xs with
      | nil =>
        rw [hy v hv] at hopens
        cases hopens.2
      | cons y xs =>
        exact hnext v hv (.inl hopens)
    have hkind : ∀ v ∈ xs.head?, v.is "JOIN" = true → JoinKind.ofWord? x.text = none := by
      intro v hv hjoin
      rw [Option.eq_none_iff_forall_ne_some]
      intro kind hkind
      exact hnext v hv (.inr ⟨hjoin, kind, JoinKind.ofWord?_eq_some_iff.mp hkind⟩)
    obtain ⟨q, hq⟩ := ih ⟨fun w hw => h.1 w (by simp [hw]), hchain⟩
      (p := some ⟨x.text, n + bytes x.gap, n + bytes x.gap + bytes x.text⟩)
      (fun u hu => by cases hu; exact hkind) (n + bytes x.gap + bytes x.text)
    have hnone : markAt p ⟨x.text, n + bytes x.gap, n + bytes x.gap + bytes x.text⟩
        (place (n + bytes x.gap + bytes x.text) (xs ++ ys)).head? = none := by
      refine markAt_eq_none (fun hjoin v hv => hp v hv x rfl hjoin) hwhere ?_
      intro v hv hopens
      obtain ⟨w, hw, htext⟩ := exists_head_place hv
      have hsame : v.is "BY" = w.is "BY" := by rw [Span.is, htext, Word.is]
      exact hby w hw (hsame ▸ hopens)
    refine ⟨q, ?_⟩
    rw [List.cons_append, place, marks, hnone, hq, spell_cons]
    simp only [Option.toList_none, List.nil_append, bytes_append, Nat.add_assoc]

theorem exists_marks_begins {m : Marker} {w : Word} {kw : List Word} (h : Begins m (w :: kw))
    (p : Option Span) (ws : List Word) (n : Nat) :
    ∃ q, (∀ u ∈ q, JoinKind.ofWord? u.text = none) ∧
      marks p (place n (w :: kw ++ ws)) = ⟨m, n + bytes w.gap, n + bytes (spell (w :: kw))⟩ ::
        marks q (place (n + bytes (spell (w :: kw))) ws) := by
  have hlast := ofWord?_of_begins h
  cases h with
  | filter h =>
    have hjoin : w.is "JOIN" = false := Word.is_false h (by decide)
    refine ⟨some ⟨w.text, n + bytes w.gap, n + bytes w.gap + bytes w.text⟩, by simpa using hlast,
      ?_⟩
    simp [place, marks, markAt, hjoin, h, spell, Nat.add_assoc]
  | @group _ v h hv =>
    have hw : w.is "JOIN" = false ∧ w.is "WHERE" = false :=
      ⟨Word.is_false h (by decide), Word.is_false h (by decide)⟩
    have hv' : v.is "JOIN" = false ∧ v.is "WHERE" = false ∧ v.is "GROUP" = false :=
      ⟨Word.is_false hv (by decide), Word.is_false hv (by decide), Word.is_false hv (by decide)⟩
    refine ⟨some ⟨v.text, n + bytes w.gap + bytes w.text + bytes v.gap,
      n + bytes w.gap + bytes w.text + bytes v.gap + bytes v.text⟩, by simpa using hlast, ?_⟩
    simp [place, marks, markAt, hw, h, hv, hv', spell, Nat.add_assoc, Option.filter_some]
  | @join kind _ v h hv =>
    have hw : w.is "JOIN" = false ∧ w.is "WHERE" = false ∧ w.is "GROUP" = false :=
      ⟨Word.is_false h (kind.upper_name_ne (by simp)),
        Word.is_false h (kind.upper_name_ne (by simp)),
        Word.is_false h (kind.upper_name_ne (by simp))⟩
    have hkind : JoinKind.ofWord? w.text = some kind := JoinKind.ofWord?_eq_some_iff.mpr h
    refine ⟨some ⟨v.text, n + bytes w.gap + bytes w.text + bytes v.gap,
      n + bytes w.gap + bytes w.text + bytes v.gap + bytes v.text⟩, by simpa using hlast, ?_⟩
    simp [place, marks, markAt, hw, hkind, hv, spell, Nat.add_assoc]

theorem by_free_of_segments {ws : List Word} {parts : List (Marker × List Word)}
    (h : segments ws = ([], parts)) : ∀ v ∈ ws.head?, v.is "BY" = false := by
  cases parts with
  | nil => simp [eq_nil_of_segments h]
  | cons p parts =>
    obtain ⟨kw, rest, hkw, rfl, -⟩ := segments_keyword h
    obtain ⟨w, kw, rfl⟩ := List.exists_cons_of_ne_nil hkw.ne_nil
    intro v hv
    cases hv
    exact hkw.second_free.1

/-- The markers after `done` are those of the clauses, the first of them begins
after blanks, and the bodies between them are the bodies of the clauses. -/
structure Cuts (s done : List Char) (ms : List MarkerSpan) (parts : List (Marker × List Word)) :
    Prop where
  markers : ms.map (·.marker) = parts.map Prod.fst
  begins : ∃ g r, AllBlank g ∧ s = done ++ (g ++ r) ∧ boundary s ms = bytes (done ++ g)
  bodies : bodies s ms =
    lift (Outline.checkBodies parts) >>= fun _ => .ok (parts.map fun p => (p.1, phrase p.2))

theorem bodies_cons {s done g r : List Char} {m : MarkerSpan} {ms : List MarkerSpan}
    {body : List Word} {parts : List (Marker × List Word)} (hp : Proper body) (hg : AllBlank g)
    (hstop : m.stop = bytes done) (hs : s = done ++ (spell body ++ (g ++ r)))
    (hboundary : boundary s ms = bytes (done ++ (spell body ++ g)))
    (hrest : bodies s ms =
      lift (Outline.checkBodies parts) >>= fun _ => .ok (parts.map fun p => (p.1, phrase p.2))) :
    bodies s (m :: ms) = lift (Outline.checkBodies ((m.marker, body) :: parts)) >>= fun _ =>
      .ok (((m.marker, body) :: parts).map fun p => (p.1, phrase p.2)) := by
  obtain ⟨x, hslice, hx⟩ := exists_slice hp hg hs hstop rfl
  rw [bodies, hboundary, hslice, ok_bind]
  simp only [hx, isEmpty_phrase hp, hrest]
  cases body with
  | nil => rfl
  | cons v body =>
    rw [Outline.checkBodies]
    simp only [List.isEmpty_cons, Bool.false_eq_true, if_false]
    cases Outline.checkBodies parts <;> rfl

theorem cuts_marks {s b done : List Char} {ws : List Word} {parts : List (Marker × List Word)}
    (hb : AllBlank b) (hp : Proper ws) (hs : s = done ++ (spell ws ++ b))
    (hsegments : segments ws = ([], parts)) (p : Option Span) :
    Cuts s done (marks p (place (bytes done) ws)) parts := by
  induction parts generalizing ws done p with
  | nil =>
    obtain rfl := eq_nil_of_segments hsegments
    exact ⟨rfl, ⟨b, [], hb, by rw [hs, List.append_nil]; rfl, by rw [hs]; rfl⟩, rfl⟩
  | cons part parts ih =>
    obtain ⟨m, body⟩ := part
    obtain ⟨kw, rest, hkw, rfl, hrest⟩ := segments_keyword hsegments
    obtain ⟨hbody, rest, rfl, hparts⟩ := segments_head hrest
    obtain ⟨w, kw, rfl⟩ := List.exists_cons_of_ne_nil hkw.ne_nil
    obtain ⟨q, hq, hmarker⟩ := exists_marks_begins hkw p (body ++ rest) (bytes done)
    obtain ⟨q', hordinary⟩ := exists_marks_ordinary hbody (by_free_of_segments hparts)
      (fun u hu _ _ _ => hq u hu) (bytes done + bytes (spell (w :: kw)))
    have hproper : Proper body ∧ Proper rest := ⟨hp.right.left, hp.right.right⟩
    have hrest' : s = done ++ spell (w :: kw) ++ spell body ++ (spell rest ++ b) := by
      rw [hs, spell_append, spell_append]
      simp only [List.append_assoc]
    have hcuts := ih hproper.2 hrest' hparts q'
    have hoffset : bytes done + bytes (spell (w :: kw)) + bytes (spell body) =
        bytes (done ++ spell (w :: kw) ++ spell body) := by
      simp only [bytes_append]
    rw [hmarker, hordinary, hoffset]
    obtain ⟨g, r, hg, hnext, hboundary⟩ := hcuts.begins
    rw [List.append_assoc (done ++ spell (w :: kw))] at hnext hboundary
    have hfirst :
        s = done ++ (w.gap ++ (w.text ++ (spell kw ++ (spell body ++ (spell rest ++ b))))) := by
      rw [hrest', spell_cons]
      simp only [List.append_assoc]
    exact ⟨congrArg (m :: ·) hcuts.markers,
      ⟨w.gap, _, hp.blank w (by simp), hfirst, by simp [boundary]⟩,
      bodies_cons hproper.1 hg (bytes_append _ _).symm hnext hboundary hcuts.bodies⟩

theorem proper_of_segments {ws head : List Word} {parts : List (Marker × List Word)}
    (hp : Proper ws) (h : segments ws = (head, parts)) : Proper head ∧ ∀ p ∈ parts, Proper p.2 := by
  induction parts generalizing ws head with
  | nil =>
    obtain ⟨-, rest, rfl, -⟩ := segments_head h
    exact ⟨hp.left, by simp⟩
  | cons part parts ih =>
    obtain ⟨-, rest, rfl, hrest⟩ := segments_head h
    obtain ⟨kw, rest, -, rfl, hparts⟩ := segments_keyword hrest
    obtain ⟨hbody, hbodies⟩ := ih hp.right.right hparts
    exact ⟨hp.left, List.forall_mem_cons.mpr ⟨hbody, hbodies⟩⟩

/-! ## The parts of a query -/

def Parts.ofOutline (o : Outline) : Parts where
  head := phrase o.head
  join := o.join.map fun (kind, body) => (kind, phrase body)
  filter := o.filter.map phrase
  group := o.group.map phrase

theorem foldl_set (o : Outline) :
    (o.parts.map fun p => (p.1, phrase p.2)).foldl Parts.set ⟨phrase o.head, none, none, none⟩ =
      Parts.ofOutline o := by
  obtain ⟨_, _ | _, _ | _, _ | _⟩ := o <;> rfl

theorem map_word_place (n : Nat) (ws : List Word) :
    ((place n ws).map word).map Word.text = ws.map Word.text := by
  rw [List.map_map]
  exact map_text_place n ws

theorem findMarkers_place {ws : List Word} :
    findMarkers (place 0 ws) 0 [] = match untypedJoin? none ws with
      | some w => reject (.untypedJoin (String.ofList w.text))
      | none => .ok (marks none (place 0 ws)) := by
  have hmarkers := findMarkers_eq [] (place 0 ws) []
  simp only [List.nil_append, List.length_nil, pastJoins, List.any_nil, Bool.false_eq_true,
    if_false, List.getLast?_nil, Option.map_none] at hmarkers
  rw [hmarkers]
  obtain ⟨hplaced, hws⟩ | ⟨v, w, hplaced, hws, htext⟩ := untypedJoin?_alike (map_word_place 0 ws)
  · rw [hplaced, hws]
  · rw [hplaced, hws]
    simp only [htext]

theorem split_eq (s : List Char) :
    Parts.split s = lift (Outline.ofWords (words s)) >>= fun o => .ok (Parts.ofOutline o) := by
  have hp := proper_words s
  obtain ⟨b, hb, hs⟩ := exists_spell s
  unfold Parts.split Outline.ofWords
  rw [spans_eq, ok_bind, findMarkers_place]
  cases untypedJoin? none (words s) with
  | some w => rfl
  | none =>
    obtain ⟨⟨head, parts⟩, hsegments⟩ : ∃ p, segments (words s) = p := ⟨_, rfl⟩
    obtain ⟨hhead, rest, hwords, hparts⟩ := segments_head hsegments
    rw [hwords] at hp hs
    obtain ⟨q, hmarks⟩ :=
      exists_marks_ordinary hhead (by_free_of_segments hparts) (p := none) (by simp) 0
    rw [Nat.zero_add] at hmarks
    rw [spell_append, List.append_assoc] at hs
    have hcuts := cuts_marks hb hp.right hs hparts q
    obtain ⟨g, r, hg, hnext, hboundary⟩ := hcuts.begins
    obtain ⟨m, hslice, hm⟩ := exists_slice (a := []) hp.left hg hnext bytes_nil.symm hboundary
    have hclauses := congrArg (List.map Marker.clause) hcuts.markers
    simp only [List.map_map, Function.comp_def] at hclauses
    simp only [hsegments, ok_bind]
    rw [hwords, hmarks, hclauses, hslice, hcuts.bodies]
    cases horder : Outline.checkOrder (parts.map fun p => p.1.clause) with
    | error e => rfl
    | ok u =>
      cases hbodies : Outline.checkBodies parts with
      | error e => rfl
      | ok u =>
        obtain ⟨o, rfl, rfl⟩ := Outline.exists_parts head horder
        simp only [ok_bind, lift_ok, hm, foldl_set]
        rw [Outline.join?_parts, Outline.body?_filter_parts, Outline.body?_group_parts]
        rfl

/-! ## The whole query -/

theorem phrase_ungap (ws : List Word) : phrase (ungap ws) = phrase ws := by
  cases ws <;> rfl

theorem readHead_phrase {ws : List Word} (h : Proper ws) :
    readHead (phrase ws) = lift (FlatQuery.readHead ws) := by
  rw [readHead_eq, h.words_phrase]
  cases ws <;> rfl

theorem readJoin_phrase {ws : List Word} (h : Proper ws) (kind : JoinKind) :
    readJoin kind (phrase ws) = lift (FlatQuery.readJoin kind ws) := by
  rw [readJoin_eq, h.words_phrase]
  cases ws with
  | nil => rfl
  | cons w ws =>
    have hw : (⟨[], w.text⟩ : Word).is "ON" = w.is "ON" := rfl
    unfold FlatQuery.readJoin
    rw [ungap, splitAtKeyword?, splitAtKeyword?, hw]
    cases w.is "ON" with
    | true => rfl
    | false =>
      cases splitAtKeyword? "ON" ws with
      | none => rfl
      | some p => obtain ⟨_ | _, _⟩ := p <;> rfl

theorem readConditions_phrase {ws : List Word} (h : Proper ws) :
    readConditions (phrase ws) = lift (FlatQuery.readConditions ws) := by
  rw [readConditions_eq, h.words_phrase, FlatQuery.readConditions_eq, FlatQuery.readConditions_eq]
  cases ws with
  | nil => rfl
  | cons w ws =>
    have hw : ((⟨[], w.text⟩ : Word).is "AND" || (⟨[], w.text⟩ : Word).is "OR") =
      (w.is "AND" || w.is "OR") := rfl
    rw [ungap, FlatQuery.splitAtConnectives, FlatQuery.splitAtConnectives, hw]
    cases w.is "AND" || w.is "OR" with
    | true => rfl
    | false => cases FlatQuery.splitAtConnectives ws <;> rfl

theorem join_ofOutline {o : Outline} (hp : ∀ p ∈ o.parts, Proper p.2) :
    ((Parts.ofOutline o).join.mapM fun p => readJoin p.1 p.2) =
      lift (o.join.mapM fun p => FlatQuery.readJoin p.1 p.2) := by
  cases hjoin : o.join with
  | none => simp [Parts.ofOutline, hjoin]; rfl
  | some p =>
    have hproper := hp (.join p.1, p.2) (by simp [Outline.parts, Outline.joinPart, hjoin])
    simp only [Parts.ofOutline, hjoin, Option.map_some, Option.mapM_some, readJoin_phrase hproper]
    cases FlatQuery.readJoin p.1 p.2 <;> rfl

theorem parse_eq (q : String) : parse q = lift (Plan.parse q) := by
  unfold parse Plan.parse
  rw [split_eq, words_trim, ofWords_ungap, lift_bind]
  cases hwords : Outline.ofWords (words q.toList) with
  | error e => rfl
  | ok o =>
    obtain ⟨-, hsegments, -⟩ := Outline.ofWords_eq_ok.mp hwords
    obtain ⟨hhead, hparts⟩ := proper_of_segments (proper_words q.toList) hsegments
    have hjoin := join_ofOutline hparts
    obtain ⟨head, join, filter, group⟩ := o
    simp only [Except.map, lift_ok, ok_bind, Parts.ofOutline, phrase_ungap, readHead_phrase hhead,
      Plan.ofOutline, lift_bind] at hjoin ⊢
    refine congrArg (lift _ >>= ·) (funext fun fields => ?_)
    rw [hjoin]
    refine congrArg (lift _ >>= ·) (funext fun joined => ?_)
    have hgroup : ((group.map phrase).mapM fun body => lift (readFields .groupBy body)) =
        lift (group.mapM fun body => readFields .groupBy (phrase body)) := by
      rw [lift_option]
      cases group <;> rfl
    rw [hgroup]
    cases filter with
    | none => cases group.mapM fun body => readFields .groupBy (phrase body) <;> rfl
    | some body =>
      have hproper := hparts (.filter, body) (by simp [Outline.parts, Outline.filterPart])
      simp only [Option.map_some, readConditions_phrase hproper, lift_bind]
      rfl

/-- **Offsets.** Reading a query by offsets takes no part of the text and no
word that is not there. It gives what reading the words gives: a plan, or an
error of one of three codes. -/
theorem parse_in_range (q : String) :
    parse q ≠ .error .outOfRange ∧
      ((∃ plan, parse q = .ok plan ∧ Plan.parse q = .ok plan) ∨
        ∃ e, parse q = .error (.rejected e) ∧ Plan.parse q = .error e ∧
          e.code ∈ ["FLATSQL_MALFORMED_QUERY", "FLATSQL_UNSUPPORTED_JOIN_TYPE",
            "FLATSQL_INVALID_OPERATOR"]) := by
  rw [parse_eq]
  cases Plan.parse q with
  | ok plan => exact ⟨by simp, .inl ⟨plan, rfl, rfl⟩⟩
  | error e =>
    refine ⟨by simp [lift], .inr ⟨e, rfl, rfl, ?_⟩⟩
    cases e <;> simp [QueryError.code]

end Located

end FlatQuery
