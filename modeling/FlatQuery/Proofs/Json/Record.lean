import FlatQuery.Proofs.Fault
import FlatQuery.Proofs.Json.Members
import FlatQuery.Proofs.Json.Reading

/-!
# Records that are read

A record that was read stands in the text as an object or an array, with the texts
that were read under the names of the form and none of those missing that the form
requires (`record_sound`). A record that is written as an object of strings is read
as it was, if its names are those of the form and each stands once (`record_object`).
-/

namespace FlatQuery.Json

/-- Every required member is there. -/
def Form.Complete (form : Form) (texts : Texts) : Prop :=
  ∀ m ∈ form.members, m.required = true → m.name ∈ texts.map Prod.fst

theorem isSome_lookup_iff {texts : Texts} {name : String} :
    (texts.lookup name).isSome = true ↔ name ∈ texts.map Prod.fst := by
  simp only [List.lookup_isSome_iff, beq_iff_eq, List.mem_map]
  exact exists_congr fun p => and_congr_right fun _ => eq_comm

theorem lookup_eq_none_iff {texts : Texts} {name : String} :
    texts.lookup name = none ↔ name ∉ texts.map Prod.fst := by
  rw [← isSome_lookup_iff, Bool.not_eq_true, Option.isSome_eq_false_iff, Option.isNone_iff_eq_none]

/-- The check at the end of an object. -/
theorem Form.complete_iff {form : Form} {texts : Texts} :
    (form.members.find? fun m => m.required && (texts.lookup m.name).isNone) = none ↔
      form.Complete texts := by
  simp only [List.find?_eq_none, Bool.and_eq_true, Option.isNone_iff_eq_none, lookup_eq_none_iff,
    not_and, not_not]
  rfl

/-! ## What was read -/

/-- The members that were read, as members of any value. -/
def entries (texts : Texts) : List (String × Option String) := texts.map fun t => (t.1, some t.2)

theorem lookup_entries (texts : Texts) (name : String) :
    (entries texts).lookup name = (texts.lookup name).map some := by
  induction texts with
  | nil => rfl
  | cons t texts ih =>
    have hcons : entries (t :: texts) = (t.1, some t.2) :: entries texts := rfl
    rw [hcons, List.lookup_cons, List.lookup_cons, ih]
    cases name == t.1 <;> rfl

theorem entries_append (known : Texts) (t : String × String) :
    entries (known ++ [t]) = entries known ++ [(t.1, some t.2)] := List.map_append

/-- The members that are known after one more of the object. -/
inductive Form.Takes (form : Form) (known : Texts) : String × Option String → Texts → Prop
  | unwanted {e : String × Option String} (h : e.1 ∉ form.members.map Member.name) :
      Takes form known e known
  | wanted {name value : String} (h : name ∈ form.members.map Member.name) :
      Takes form known (name, some value) (known ++ [(name, value)])

theorem exists_pair {name : String} {d : Option String} {s s₁ s₂ g w rest : List Char}
    (hkey : key s = .ok (name, s₁)) (hcolon : colon s₁ = .ok s₂) (hg : Blanks g) (hd : Datum d w)
    (hs₂ : s₂ = g ++ (w ++ rest)) : ∃ p, Pair (name, d) p ∧ s = p ++ rest := by
  obtain ⟨k, hk, hs⟩ := exists_of_key hkey
  obtain ⟨g', hg', hs₁⟩ := exists_of_colon hcolon
  exact ⟨_, .named hk hg' hg hd, by simp [hs, hs₁, hs₂]⟩

/-- One turn of the reader: the object ends, or one more member was read. -/
theorem objectTexts_succ {form : Form} {fuel : Nat} {isFirst : Bool} {known texts : Texts}
    {s rest : List Char} (h : objectTexts form (fuel + 1) isFirst known s = .ok (texts, rest)) :
    (∃ g, Blanks g ∧ s = g ++ '\x7d' :: rest ∧ texts = known ∧ form.Complete known) ∨
      ∃ g e p known' s', Pair e p ∧ s = g ++ (p ++ s') ∧ form.Takes known e known' ∧
        (∀ {es t}, Listed Pair false es t → Listed Pair isFirst (e :: es) (g ++ (p ++ t))) ∧
        objectTexts form fuel false known' s' = .ok (texts, rest) := by
  unfold objectTexts at h
  obtain ⟨⟨more, s₁⟩, hnext, h⟩ := bind_eq_ok_iff.mp h
  cases more with
  | false =>
    obtain ⟨g, hg, hs⟩ := exists_of_nextItem_false hnext
    cases hmissing : form.members.find? fun m => m.required && (known.lookup m.name).isNone with
    | some missing => simp only [hmissing] at h; cases h
    | none =>
      simp only [hmissing] at h
      cases h
      exact .inl ⟨g, hg, hs, rfl, Form.complete_iff.mp hmissing⟩
  | true =>
    obtain ⟨g, hs, hlisted⟩ := exists_of_nextItem_true (P := Pair) hnext
    obtain ⟨⟨name, s₂⟩, hkey, h⟩ := bind_eq_ok_iff.mp h
    refine .inr ?_
    cases hmember : form.members.find? (·.name = name) with
    | none =>
      simp only [hmember] at h
      obtain ⟨s₃, hcolon, h⟩ := bind_eq_ok_iff.mp h
      obtain ⟨s₄, hskip, h⟩ := bind_eq_ok_iff.mp h
      obtain ⟨g', w, hg', hw, hs₃⟩ := skip_sound hskip
      obtain ⟨d, hd⟩ := exists_datum hw
      obtain ⟨p, hpair, hs₁⟩ := exists_pair hkey hcolon hg' hd hs₃
      have hname : name ∉ form.members.map Member.name := by
        simpa [List.find?_eq_none] using hmember
      exact ⟨g, _, p, known, s₄, hpair, by rw [hs, hs₁], .unwanted hname,
        fun ht => hlisted blanks_nil hpair ht, h⟩
    | some member =>
      simp only [hmember] at h
      split at h
      · cases h
      · obtain ⟨s₃, hcolon, h⟩ := bind_eq_ok_iff.mp h
        obtain ⟨⟨value, s₄⟩, htext, h⟩ := bind_eq_ok_iff.mp h
        obtain ⟨g', w, hg', hw, hs₃⟩ := text_sound htext
        obtain ⟨p, hpair, hs₁⟩ := exists_pair hkey hcolon hg' (.text hw) hs₃
        have hname : name ∈ form.members.map Member.name :=
          List.mem_map.mpr ⟨member, List.mem_of_find?_eq_some hmember, by
            simpa using List.find?_some hmember⟩
        exact ⟨g, _, p, known ++ [(name, value)], s₄, hpair, by rw [hs, hs₁], .wanted hname,
          fun ht => hlisted blanks_nil hpair ht, h⟩

/-- An object that was read, and what its members say of those that are wanted. -/
theorem objectTexts_sound {form : Form} {fuel : Nat} {isFirst : Bool} {known texts : Texts}
    {s rest : List Char} (h : objectTexts form fuel isFirst known s = .ok (texts, rest)) :
    form.Complete texts ∧ ∃ es t, Listed Pair isFirst es t ∧ s = t ++ '\x7d' :: rest ∧
      ∀ name ∈ form.members.map Member.name,
        (entries known ++ es).lookup name = (entries texts).lookup name := by
  induction fuel generalizing isFirst known s with
  | zero => cases h
  | succ fuel ih =>
    obtain ⟨g, hg, hs, rfl, hcomplete⟩ | ⟨g, e, p, known', s', hpair, hs, htakes, hlisted, h⟩ :=
      objectTexts_succ h
    · exact ⟨hcomplete, [], g, .nil hg, hs, by simp⟩
    · obtain ⟨hcomplete, es, t, ht, hs', hlookup⟩ := ih h
      refine ⟨hcomplete, e :: es, g ++ (p ++ t), hlisted ht, by simp [hs, hs'],
        fun name hname => ?_⟩
      rw [← hlookup name hname]
      cases htakes with
      | unwanted he =>
        obtain ⟨other, d⟩ := e
        have hne : (name == other) = false := beq_eq_false_iff_ne.mpr fun heq => he (heq ▸ hname)
        rw [List.lookup_append, List.lookup_append, List.lookup_cons, hne]
      | wanted => rw [entries_append, List.append_assoc, List.singleton_append]

theorem exists_of_endArray {s rest : List Char} (h : endArray s = .ok rest) :
    ∃ g, Blanks g ∧ s = g ++ ']' :: rest := by
  unfold endArray at h
  split at h
  · cases h
  · next hs =>
    cases h
    exact exists_of_skipBlanks hs
  · split at h <;> cases h
  · cases h

/-- An array that was read: its texts go by the names of the members in their order. -/
theorem arrayTexts_sound {form : Form} {others : List Member} {known texts : Texts}
    {s rest : List Char} (h : arrayTexts form others known s = .ok (texts, rest)) :
    ∃ vs t, Listed Quoted known.isEmpty vs t ∧ s = t ++ ']' :: rest ∧ vs.length ≤ others.length ∧
      texts = known ++ (others.map Member.name).zip vs ∧
      ∀ m ∈ others, m.required = true →
        m.name ∈ ((others.map Member.name).zip vs).map Prod.fst := by
  induction others generalizing known s with
  | nil =>
    unfold arrayTexts at h
    obtain ⟨after, hend, heq⟩ := map_eq_ok_iff.mp h
    cases heq
    obtain ⟨g, hg, hs⟩ := exists_of_endArray hend
    exact ⟨[], g, .nil hg, hs, by simp⟩
  | cons member others ih =>
    unfold arrayTexts at h
    obtain ⟨⟨more, s₁⟩, hnext, h⟩ := bind_eq_ok_iff.mp h
    cases more with
    | true =>
      obtain ⟨g, hs, hlisted⟩ := exists_of_nextItem_true (P := Quoted) hnext
      obtain ⟨⟨value, s₂⟩, htext, h⟩ := bind_eq_ok_iff.mp h
      obtain ⟨g₁, w, hg₁, hw, hs₁⟩ := text_sound htext
      obtain ⟨vs, t, ht, hs₂, hlength, rfl, hmore⟩ := ih h
      have hknown : (known ++ [(member.name, value)]).isEmpty = false := by simp
      rw [hknown] at ht
      refine ⟨value :: vs, _, hlisted hg₁ hw ht, by simp [hs, hs₁, hs₂],
        Nat.succ_le_succ hlength, by simp, fun m hm hrequired => ?_⟩
      rw [List.map_cons, List.zip_cons_cons, List.map_cons]
      obtain rfl | hm := List.mem_cons.mp hm
      · exact List.mem_cons_self
      · exact List.mem_cons_of_mem _ (hmore m hm hrequired)
    | false =>
      obtain ⟨g, hg, hs⟩ := exists_of_nextItem_false hnext
      cases hrequired : (member :: others).findIdx? Member.required with
      | some distance => simp only [hrequired] at h; cases h
      | none =>
        simp only [hrequired] at h
        cases h
        refine ⟨[], g, .nil hg, hs, Nat.zero_le _, by simp, fun m hm hm' => ?_⟩
        rw [List.findIdx?_eq_none_iff.mp hrequired m hm] at hm'
        cases hm'

/-- A text in which a record was found and blanks are left holds what was read. -/
theorem recordTexts_sound {form : Form} {s rest : List Char} {texts : Texts}
    (h : recordTexts form s = .ok (texts, rest)) (hrest : Blanks rest) :
    form.Complete texts ∧ ∃ es, Holds (form.members.map Member.name) s es ∧
      ∀ name ∈ form.members.map Member.name, es.lookup name = (texts.lookup name).map some := by
  unfold recordTexts at h
  split at h
  · next body hs =>
    obtain ⟨g, hg, hs⟩ := exists_of_skipBlanks hs
    obtain ⟨hcomplete, es, t, ht, hbody, hlookup⟩ := objectTexts_sound h
    refine ⟨hcomplete, es, ?_, fun name hname => ?_⟩
    · have hholds : Holds (form.members.map Member.name) _ es := .object hg (.list ht) hrest
      simpa [hs, hbody, Bracket.opening, Bracket.closing] using hholds
    · rw [← lookup_entries, ← hlookup name hname]
      rfl
  · next body hs =>
    obtain ⟨g, hg, hs⟩ := exists_of_skipBlanks hs
    obtain ⟨vs, t, ht, hbody, hlength, rfl, hrequired⟩ := arrayTexts_sound h
    refine ⟨hrequired, (form.members.map Member.name).zip (vs.map some), ?_, fun name _ => ?_⟩
    · have hnames : vs.length ≤ (form.members.map Member.name).length := by
        rwa [List.length_map]
      have hholds : Holds (form.members.map Member.name) _ _ := .array hg (.list ht) hnames hrest
      simpa [hs, hbody, Bracket.opening, Bracket.closing] using hholds
    · rw [← lookup_entries, entries, List.nil_append, List.zip_map_right]
      rfl
  · obtain ⟨⟨other, s⟩, -, h⟩ := bind_eq_ok_iff.mp h
    cases h

/-- **Records that are read.** The text holds an object or an array with the texts
that were read, and no member that the form requires is missing. -/
theorem record_sound {form : Form} {s : String} {texts : Texts} (h : record form s = .ok texts) :
    form.Complete texts ∧ ∃ es, Holds (form.members.map Member.name) s.toList es ∧
      ∀ name ∈ form.members.map Member.name, es.lookup name = (texts.lookup name).map some := by
  have honly : onlyRecord form s.toList = .ok texts := by
    unfold record at h
    split at h
    · next hs => rw [hs, Except.ok.inj h]
    · cases h
  unfold onlyRecord at honly
  obtain ⟨⟨read, rest⟩, hread, hend⟩ := bind_eq_ok_iff.mp honly
  cases hblanks : skipBlanks rest with
  | nil =>
    simp only [hblanks] at hend
    cases hend
    obtain ⟨g, hg, hrest⟩ := exists_of_skipBlanks hblanks
    exact recordTexts_sound hread (by rwa [hrest, List.append_nil])
  | cons c rest => simp only [hblanks] at hend; cases hend

/-! ## Reading back -/

section
variable {form : Form} {known members : Texts} {rest : List Char}

/-- One member, and then the others. -/
theorem objectTexts_member {fuel : Nat} {isFirst : Bool} {s : List Char} {m : String × String}
    (hnext : nextItem .curly isFirst s = .ok (true, spelledMember escape m ++ rest))
    (hname : m.1 ∈ form.members.map Member.name) (hnew : m.1 ∉ known.map Prod.fst) :
    objectTexts form (fuel + 1) isFirst known s =
      objectTexts form fuel false (known ++ [m]) rest := by
  have hkey : key (spelledMember escape m ++ rest) =
      .ok (m.1, ':' :: (spelled escape m.2 ++ rest)) := by
    rw [spelledMember, List.append_assoc, key_spelled spells_escape]
    rfl
  have hcolon : colon (':' :: (spelled escape m.2 ++ rest)) = .ok (spelled escape m.2 ++ rest) :=
    rfl
  obtain ⟨member, hmember⟩ : ∃ member, form.members.find? (·.name = m.1) = some member := by
    obtain ⟨member, hm, heq⟩ := List.mem_map.mp hname
    exact Option.isSome_iff_exists.mp (List.find?_isSome.mpr ⟨member, hm, by simpa using heq⟩)
  conv_lhs => unfold objectTexts
  simp only [hnext, hkey, hcolon, hmember, text_spelled spells_escape, lookup_eq_none_iff.mpr hnew,
    bind, Except.bind]
  rfl

theorem objectTexts_spelledRest {fuel : Nat} (hf : members.length < fuel)
    (hnames : ∀ m ∈ members, m.1 ∈ form.members.map Member.name)
    (hnodup : ((known ++ members).map Prod.fst).Nodup)
    (hcomplete : form.Complete (known ++ members)) :
    objectTexts form fuel false known (spelledRest escape members rest) =
      .ok (known ++ members, rest) := by
  induction members generalizing fuel known with
  | nil =>
    obtain ⟨fuel, rfl⟩ := Nat.exists_eq_succ_of_ne_zero (Nat.ne_zero_of_lt hf)
    rw [List.append_nil] at hcomplete ⊢
    have hnext : nextItem .curly false (spelledRest escape [] rest) = .ok (false, rest) := rfl
    unfold objectTexts
    simp only [hnext, Form.complete_iff.mpr hcomplete, bind, Except.bind]
    rfl
  | cons m members ih =>
    obtain ⟨fuel, rfl⟩ := Nat.exists_eq_succ_of_ne_zero (Nat.ne_zero_of_lt hf)
    have hnew : m.1 ∉ known.map Prod.fst := by
      rw [List.map_append] at hnodup
      exact fun hm => (List.nodup_append.mp hnodup).2.2 _ hm m.1 (by simp) rfl
    rw [spelledRest_cons, objectTexts_member rfl (hnames m (by simp)) hnew]
    rw [List.append_cons known m members] at hnodup hcomplete ⊢
    exact ih (Nat.lt_of_succ_lt_succ hf) (fun n hn => hnames n (by simp [hn])) hnodup hcomplete

end

/-- The texts of an object are the members that were written, in their order. -/
theorem record_object {form : Form} {members : Texts} (hmembers : members ≠ [])
    (hnames : ∀ m ∈ members, m.1 ∈ form.members.map Member.name)
    (hnodup : (members.map Prod.fst).Nodup) (hcomplete : form.Complete members) :
    record form (object (members.map fun m => (m.1, quote m.2))) = .ok members := by
  obtain ⟨first, others, rfl⟩ := List.exists_cons_of_ne_nil hmembers
  have htext : (object ((first :: others).map fun m => (m.1, quote m.2))).toList =
      spelledObject escape first others [] := by
    rw [toList_object, List.map_cons, separatedMembers_cons, List.tail_cons]
    simp [spelledObject, spelledMember, spelledRest, separatedMembers, toList_quote,
      List.flatMap_map]
  have hread : recordTexts form (spelledObject escape first others []) =
      .ok (first :: others, []) := by
    have hblanks : skipBlanks (spelledObject escape first others []) =
        spelledObject escape first others [] := rfl
    unfold recordTexts
    rw [hblanks]
    simp only [spelledObject]
    rw [objectTexts_member rfl (hnames first (by simp)) (by simp)]
    apply objectTexts_spelledRest _ (fun n hn => hnames n (by simp [hn])) hnodup hcomplete
    have hlength := length_le_spelledRest escape others []
    rw [List.length_append]
    omega
  unfold record onlyRecord
  rw [htext, hread]
  rfl

end FlatQuery.Json
