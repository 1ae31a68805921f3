import FlatQuery.Proofs.Query.Conditions
import FlatQuery.Proofs.Query.Outline
import FlatQuery.Proofs.Text.Slice
import FlatQuery.Query.Located

/-!
# Readers by offsets

Every part that a reader of a clause takes is there: it lies between two words
of the text, or between one of them and an end of it. So each reader by offsets
is the reader of the words (`readHead_eq`, `readJoin_eq`, `readConditions_eq`),
and an operator and a pair of quotes are found where characters begin
(`readCondition_eq`).
-/

namespace FlatQuery

open Text

namespace Located

variable {α β : Type}

@[simp] theorem ok_bind (a : α) (f : α → Except Halt β) : Except.ok a >>= f = f a := rfl

@[simp] theorem lift_ok (a : α) : lift (.ok a) = .ok a := rfl

theorem lift_bind (x : Except QueryError α) (f : α → Except QueryError β) :
    lift (x >>= f) = lift x >>= fun a => lift (f a) := by
  cases x <;> rfl

theorem lift_mapM (f : α → Except QueryError β) (l : List α) :
    lift (l.mapM f) = l.mapM fun a => lift (f a) := by
  induction l with
  | nil => rfl
  | cons a l ih =>
    simp only [List.mapM_cons, lift_bind, ih]
    rfl

theorem lift_option (f : α → Except QueryError β) (o : Option α) :
    lift (o.mapM f) = o.mapM fun a => lift (f a) := by
  cases o with
  | none => rfl
  | some a => simp only [Option.mapM_some]; cases f a <;> rfl

/-! ## Parts of a text -/

theorem slice_eq {s a m b : List Char} {i j : Nat} (h : s = a ++ (m ++ b)) (hi : i = bytes a)
    (hj : j = bytes a + bytes m) : slice s i j = .ok m := by
  unfold slice
  rw [slice?_eq_some_iff.mpr ⟨a, b, h, hi.symm, hj.symm⟩]
  rfl

/-- A part that is a row of words, with blanks after them. -/
theorem exists_slice {s a g b : List Char} {ws : List Word} {i j : Nat} (hw : Proper ws)
    (hg : AllBlank g) (h : s = a ++ (spell ws ++ (g ++ b))) (hi : i = bytes a)
    (hj : j = bytes (a ++ (spell ws ++ g))) : ∃ m, slice s i j = .ok m ∧ trim m = phrase ws := by
  refine ⟨spell ws ++ g, slice_eq (b := b) ?_ hi ?_, hw.trim_spell hg⟩
  · rw [h, List.append_assoc]
  · rw [hj, bytes_append]

section

variable {s : List Char} {xs ys : List Word} {w : Word}

theorem slice_before (h : words s = xs ++ w :: ys) :
    ∃ m, slice s 0 (bytes (spell xs ++ w.gap)) = .ok m ∧ trim m = phrase xs := by
  have hp := proper_words s
  obtain ⟨b, -, hs⟩ := exists_spell s
  rw [h] at hp hs
  refine exists_slice (a := []) (b := w.text ++ (spell ys ++ b)) hp.left
    (hp.blank w (by simp)) ?_ rfl rfl
  rw [hs, spell_append, spell_cons]
  simp only [List.append_assoc, List.nil_append]

theorem slice_after (h : words s = xs ++ w :: ys) :
    ∃ m, slice s (bytes (spell xs ++ (w.gap ++ w.text))) (bytes s) = .ok m ∧
      trim m = phrase ys := by
  have hp := proper_words s
  obtain ⟨b, hb, hs⟩ := exists_spell s
  rw [h] at hp hs
  have htext : s = spell xs ++ (w.gap ++ w.text) ++ (spell ys ++ (b ++ [])) := by
    rw [hs, spell_append, spell_cons]
    simp only [List.append_assoc, List.append_nil]
  refine exists_slice hp.right.tail hb htext rfl ?_
  rw [htext, List.append_nil]

theorem slice_between {v : Word} {ms : List Word} (h : words s = xs ++ v :: (ms ++ w :: ys)) :
    ∃ m, slice s (bytes (spell xs ++ (v.gap ++ v.text))) (bytes (spell (xs ++ v :: ms) ++ w.gap)) =
      .ok m ∧ trim m = phrase ms := by
  have hp := proper_words s
  obtain ⟨b, -, hs⟩ := exists_spell s
  rw [h] at hp hs
  refine exists_slice (b := w.text ++ (spell ys ++ b)) hp.right.tail.left
    (hp.blank w (by simp)) ?_ rfl ?_
  · rw [hs, spell_append, spell_cons, spell_append, spell_cons]
    simp only [List.append_assoc]
  · rw [spell_append, spell_cons]
    simp only [List.append_assoc]

end

/-! ## Words at their places -/

theorem spans_eq (s : List Char) : spans s = .ok (place 0 (words s)) := by
  rw [spans, spans?_eq]; rfl

section

variable {ws xs ys : List Word} {w : Word}

theorem nth_place (h : ws = xs ++ w :: ys) : nth (place 0 ws) xs.length =
    .ok ⟨w.text, bytes (spell xs ++ w.gap), bytes (spell xs ++ (w.gap ++ w.text))⟩ := by
  rw [h, place_append, place, nth, List.getElem?_append_right (by simp)]
  simp [inRange, Nat.add_assoc]

theorem upTo_place (h : ws = xs ++ ys) : upTo (place 0 ws) xs.length = .ok (place 0 xs) := by
  have hlen : xs.length = (place 0 xs).length := (length_place 0 xs).symm
  rw [h, upTo, if_pos (by simp), place_append, hlen, List.take_left]

theorem onward_place (h : ws = xs ++ w :: ys) :
    ∃ n, onward (place 0 ws) (xs.length + 1) = .ok (place n ys) := by
  have hlen : xs.length + 1 = (place 0 (xs ++ [w])).length := by simp
  refine ⟨bytes (spell (xs ++ [w])), ?_⟩
  rw [h, List.append_cons, onward, if_pos (by simp), place_append, hlen, List.drop_left,
    Nat.zero_add]

@[simp] theorem is_mk (w : Word) (i j : Nat) (k : String) : Span.is ⟨w.text, i, j⟩ k = w.is k := rfl

theorem findIdx?_place_none {k : String} (h : ∀ w ∈ ws, w.is k = false) (n : Nat) :
    (place n ws).findIdx? (·.is k) = none := by
  induction ws generalizing n with
  | nil => rfl
  | cons w ws ih =>
    rw [place, List.findIdx?_cons, ih fun v hv => h v (by simp [hv])]
    simp [h w (by simp)]

theorem findIdx?_place {k : String} (hx : ∀ x ∈ xs, x.is k = false) (hw : w.is k = true) (n : Nat) :
    (place n (xs ++ w :: ys)).findIdx? (·.is k) = some xs.length := by
  induction xs generalizing n with
  | nil =>
    rw [List.nil_append, place, List.findIdx?_cons]
    simp [hw]
  | cons x xs ih =>
    rw [List.cons_append, place, List.findIdx?_cons, ih fun v hv => hx v (by simp [hv])]
    simp [hx x (by simp)]

theorem exists_keyword (k : String) (ws : List Word) :
    (∀ w ∈ ws, w.is k = false) ∨
      ∃ before w after, ws = before ++ w :: after ∧ (∀ v ∈ before, v.is k = false) ∧
        w.is k = true := by
  induction ws using split_induction (Word.is · k) with
  | last ws h => exact .inl h
  | more before w after h hw _ => exact .inr ⟨before, w, after, rfl, h, hw⟩

end

/-! ## The readers -/

theorem isEmpty_phrase {ws : List Word} (h : Proper ws) : (phrase ws).isEmpty = ws.isEmpty := by
  cases ws with
  | nil => rfl
  | cons w ws => simp [h.phrase_ne_nil]

theorem readHead_from {s : List Char} {first fromWord : Word} {list after : List Word}
    (hws : words s = first :: (list ++ fromWord :: after)) (hselect : first.is "SELECT" = true)
    (hlist : ∀ w ∈ list, w.is "FROM" = false) (hfrom : fromWord.is "FROM" = true) :
    readHead s = lift (FlatQuery.readHead (words s)) := by
  have hfirst : first.is "FROM" = false := Word.is_false hselect (by decide)
  have hws' : words s = [] ++ first :: (list ++ fromWord :: after) := hws
  have hfrom' : words s = (first :: list) ++ fromWord :: after := hws
  have hproper : Proper list := (hws ▸ proper_words s).tail.left
  have hhead : (place 0 (words s)).head?.any (·.is "SELECT") = true := hws ▸ hselect
  have hfind : (place 0 (words s)).findIdx? (·.is "FROM") = some (first :: list).length :=
    hws ▸ findIdx?_place (List.forall_mem_cons.mpr ⟨hfirst, hlist⟩) hfrom 0
  have hnth : nth (place 0 (words s)) 0 = _ := nth_place hws'
  obtain ⟨n, honward⟩ := onward_place hfrom'
  obtain ⟨m, hbetween, hm⟩ := slice_between hws'
  obtain ⟨m', hafter, hm'⟩ := slice_after hfrom'
  rw [List.nil_append] at hbetween
  unfold readHead
  rw [spans_eq, ok_bind, hhead]
  simp only [hfind, hnth, nth_place hfrom', ok_bind, Bool.not_true, Bool.false_eq_true, if_false]
  rw [hbetween]
  simp only [ok_bind, hm, isEmpty_phrase hproper]
  simp only [hws, FlatQuery.readHead, hselect, splitAtKeyword?_more hlist hfrom, Bool.not_true,
    Bool.false_eq_true, if_false]
  cases list with
  | nil => rfl
  | cons v list =>
    simp only [List.isEmpty_cons, Bool.false_eq_true, if_false, lift_bind]
    refine congrArg (lift _ >>= ·) (funext fun fields => ?_)
    rw [← hws, honward, ok_bind]
    cases after with
    | nil => rfl
    | cons table after =>
      cases after with
      | nil => rfl
      | cons u after =>
        simp only [place]
        rw [hafter, ok_bind, hm']
        rfl

theorem readHead_eq (s : List Char) : readHead s = lift (FlatQuery.readHead (words s)) := by
  cases hws : words s with
  | nil =>
    unfold readHead
    rw [spans_eq, ok_bind, hws]
    rfl
  | cons first rest =>
    have hhead : (place 0 (first :: rest)).head?.any (·.is "SELECT") = first.is "SELECT" := rfl
    cases hselect : first.is "SELECT" with
    | false =>
      unfold readHead
      rw [spans_eq, ok_bind, hws, hhead]
      simp [FlatQuery.readHead, hselect, reject]
    | true =>
      obtain hnone | ⟨list, fromWord, after, rfl, hlist, hfrom⟩ := exists_keyword "FROM" rest
      · have hfirst : first.is "FROM" = false := Word.is_false hselect (by decide)
        have hfind := findIdx?_place_none (List.forall_mem_cons.mpr ⟨hfirst, hnone⟩) 0
        unfold readHead
        rw [spans_eq, ok_bind, hws, hhead]
        simp [FlatQuery.readHead, hselect, hfind, splitAtKeyword?_last hnone, reject]
      · rw [← hws]
        exact readHead_from hws hselect hlist hfrom

theorem readJoin_eq (kind : JoinKind) (s : List Char) :
    readJoin kind s = lift (FlatQuery.readJoin kind (words s)) := by
  unfold readJoin
  rw [spans_eq, ok_bind]
  obtain hnone | ⟨before, onWord, after, hws, hbefore, hon⟩ := exists_keyword "ON" (words s)
  · simp [FlatQuery.readJoin, findIdx?_place_none hnone, splitAtKeyword?_last hnone, reject]
  · have hfind : (place 0 (words s)).findIdx? (·.is "ON") = some before.length :=
      hws ▸ findIdx?_place hbefore hon 0
    obtain ⟨m, hslice, hm⟩ := slice_before hws
    obtain ⟨m', hafter, hm'⟩ := slice_after hws
    simp only [hfind, upTo_place hws, nth_place hws, ok_bind]
    rw [hws, FlatQuery.readJoin, splitAtKeyword?_more hbefore hon]
    cases before with
    | nil =>
      simp only [place]
      rw [hslice, ok_bind, hm]
      rfl
    | cons table before =>
      cases before with
      | nil =>
        simp only [place]
        rw [hafter, ok_bind, hm']
        cases readEquality? (phrase after) <;> rfl
      | cons u before =>
        simp only [place]
        rw [hslice, ok_bind, hm]
        rfl

theorem isQuotedBy_bytes {q : Char} (hq : q.utf8Size = 1) (s : List Char) :
    (decide (2 ≤ bytes s) && s.head? == some q && s.getLast? == some q) = isQuotedBy q s := by
  unfold isQuotedBy
  cases s with
  | nil => rfl
  | cons c t =>
    by_cases hc : c = q
    · have hlen : 2 ≤ bytes (c :: t) ↔ 2 ≤ (c :: t).length := by
        cases t with
        | nil => simp [hc, hq]
        | cons d t =>
          have hd := d.utf8Size_pos
          simp only [bytes_cons, hc, hq, List.length_cons]
          omega
      rw [decide_eq_decide.mpr hlen]
    · have hne : (c == q) = false := beq_false_of_ne hc
      simp [hne]

theorem unquote_eq (s : List Char) : unquote s = .ok (FlatQuery.unquote s) := by
  simp only [unquote, isQuotedBy_bytes (q := '\x27') (by decide),
    isQuotedBy_bytes (q := '"') (by decide)]
  by_cases h : (isQuotedBy '\x27' s || isQuotedBy '"' s) = true
  · rw [if_pos h]
    have hq : ∃ q v, (q = '\x27' ∨ q = '"') ∧ s = q :: (v ++ [q]) := by
      obtain h | h := Bool.or_eq_true_iff.mp h
      · exact (isQuotedBy_iff.mp h).elim fun v hv => ⟨_, v, .inl rfl, hv⟩
      · exact (isQuotedBy_iff.mp h).elim fun v hv => ⟨_, v, .inr rfl, hv⟩
    obtain ⟨q, v, hq, rfl⟩ := hq
    have hsize : q.utf8Size = 1 := by obtain rfl | rfl := hq <;> decide
    rw [unquote_wrapped hq]
    exact slice_eq (a := [q]) (b := [q]) rfl (by simp [hsize]) (by simp [hsize]; omega)
  · rw [if_neg h, FlatQuery.unquote, if_neg h]
    rfl

theorem readCondition_eq (s : List Char) : readCondition s = lift (FlatQuery.readCondition s) := by
  unfold readCondition
  simp only
  obtain hplain | ⟨f, o, v, hcut⟩ := exists_cut (trim s)
  · rw [offset?_last hplain, readCondition_plain hplain]
    rfl
  · obtain ⟨-, hrun, -⟩ := hcut.found
    have hstart : offset? isOperatorChar (trim s) = some (bytes f) := by
      obtain ⟨c, o, rfl⟩ := List.exists_cons_of_ne_nil hcut.nonempty
      rw [hcut.text]
      exact offset?_more hcut.plain (hcut.operators c (by simp)) (o ++ v)
    have hrest : slice (trim s) (bytes f) (bytes (trim s)) = .ok (o ++ v) :=
      slice_eq (b := []) (by rw [hcut.text, List.append_nil]) rfl (by rw [hcut.text, bytes_append])
    have hfield : slice (trim s) 0 (bytes f) = .ok f :=
      slice_eq (a := []) hcut.text rfl (by rw [bytes_nil, Nat.zero_add])
    have hsymbol : slice (trim s) (bytes f) (bytes f + bytes o) = .ok o :=
      slice_eq hcut.text rfl rfl
    have hvalue : slice (trim s) (bytes f + bytes o) (bytes (trim s)) = .ok v :=
      slice_eq (a := f ++ o) (b := []) (by rw [hcut.text]; simp) (by simp)
        (by rw [hcut.text]; simp [Nat.add_assoc])
    simp only [hstart, hrest, ok_bind, hrun, hfield, hsymbol, hvalue, unquote_eq,
      readCondition_cut hcut, lift_bind]
    refine congrArg (lift _ >>= ·) (funext fun comparison => ?_)
    split <;> rfl

theorem splitAtConnectives_skip {xs : List Word} (h : ∀ w ∈ xs, w.isConnective = false)
    (s : List Char) (start n : Nat) (ys : List Word) :
    splitAtConnectives s start (place n (xs ++ ys)) =
      splitAtConnectives s start (place (n + bytes (spell xs)) ys) := by
  induction xs generalizing n with
  | nil => rfl
  | cons x xs ih =>
    have hx : (x.is "AND" || x.is "OR") = false := h x (by simp)
    rw [List.cons_append, place, splitAtConnectives]
    simp only [is_mk, hx, Bool.false_eq_true, if_false]
    rw [ih fun w hw => h w (by simp [hw]), spell_cons]
    simp only [bytes_append, Nat.add_assoc]

theorem splitAtConnectives_eq {s b a : List Char} {ws : List Word} (hb : AllBlank b)
    (hp : Proper ws) (hs : s = a ++ (spell ws ++ b)) :
    ∃ segments, splitAtConnectives s (bytes a) (place (bytes a) ws) = .ok segments ∧
      segments.map trim = (FlatQuery.splitAtConnectives ws).map phrase := by
  induction ws using split_induction Word.isConnective generalizing a with
  | last ws h =>
    have hend : s = a ++ (spell ws ++ (b ++ [])) := by rw [hs, List.append_nil]
    obtain ⟨m, hslice, hm⟩ := exists_slice hp hb hend rfl rfl
    have hskip := splitAtConnectives_skip h s (bytes a) (bytes a) []
    rw [List.append_nil] at hskip
    refine ⟨[m], ?_, by simp [splitAtConnectives_last h, hm]⟩
    rw [hskip, place, splitAtConnectives]
    rw [← hs] at hslice
    rw [hslice]
    rfl
  | more xs w ws h hw ih =>
    have hw' : (w.is "AND" || w.is "OR") = true := hw
    have hsegment : s = a ++ (spell xs ++ (w.gap ++ (w.text ++ (spell ws ++ b)))) := by
      rw [hs, spell_append, spell_cons]
      simp only [List.append_assoc]
    have hrest : s = a ++ (spell xs ++ (w.gap ++ w.text)) ++ (spell ws ++ b) := by
      rw [hsegment]
      simp only [List.append_assoc]
    obtain ⟨m, hslice, hm⟩ := exists_slice hp.left (hp.right.blank w (by simp)) hsegment rfl rfl
    obtain ⟨segments, hsplit, hsegments⟩ := ih hp.right.tail hrest
    refine ⟨m :: segments, ?_, by simp [splitAtConnectives_more h hw, hm, hsegments]⟩
    rw [splitAtConnectives_skip h, place, splitAtConnectives]
    simp only [is_mk, hw', if_true]
    simp only [bytes_append, ← Nat.add_assoc] at hslice hsplit
    rw [hslice, hsplit]
    rfl

theorem readConditions_eq (s : List Char) :
    readConditions s = lift (FlatQuery.readConditions (words s)) := by
  obtain ⟨b, hb, hs⟩ := exists_spell s
  obtain ⟨segments, hsplit, hsegments⟩ := splitAtConnectives_eq (a := []) hb (proper_words s) hs
  have hread : readCondition = fun segment => lift (FlatQuery.readCondition (trim segment)) := by
    funext segment
    rw [readCondition_eq, readCondition_trim]
  rw [FlatQuery.readConditions_eq, ← hsegments, List.mapM_map, lift_mapM, readConditions, spans_eq,
    hread]
  simp only [ok_bind]
  rw [bytes_nil] at hsplit
  rw [hsplit]
  rfl

end Located

end FlatQuery
