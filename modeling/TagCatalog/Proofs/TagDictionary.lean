import Mathlib.Tactic
import TagCatalog.Image.TagDictionary
import TagCatalog.Proofs.OrderedMap

/-!
Names lead to tags that have them.

A dictionary is changed by giving names and by forgetting all. Two tags may be given one name, and
a tag may be given another name; then a name that a tag has may lead to another tag or nowhere. But
a name that leads to a tag is the name that this tag has.

* `TagDictionary.Change`, `ofChanges`: dictionaries by what has been done to them.
* `TagDictionary.LeadsBack`: the invariant; `leadsBack_insert` is the step and
  `leadsBack_ofChanges` the run.
* `TagDictionary.TwoWay`: a name that leads to exactly the tags that have it;
  `twoWay_apply_iff` is the step and `twoWay_prefixes_iff` the run.
* `TagDictionary.Holds`, `holds_ofList`: the names that a list gives, by what is found in their
  dictionary; `isEmpty_iff_nameless` is this for the dictionary without names.
* `twoWay_iff_unshared`: a name is one of a single tag at all times exactly if it is never given to
  a tag while another has it.
-/

namespace TagCatalog.TagDictionary

/-- What may be done to a dictionary. -/
inductive Change
  /-- A tag is given a name. -/
  | insert (id : TagId) (name : String)
  /-- All names are forgotten. -/
  | clear

/-- The dictionary after a change. -/
def Change.apply (d : TagDictionary) : Change → TagDictionary
  | insert id name => d.insert id name
  | clear => ∅

/-- The dictionary after changes to the one without names. -/
def ofChanges (changes : List Change) : TagDictionary := changes.foldl Change.apply ∅

/-- Each name that leads to a tag is the one that the tag has. -/
def LeadsBack (d : TagDictionary) : Prop := ∀ name id, d.id? name = some id → d.name? id = some name

/-- In the dictionary without names none leads anywhere. -/
lemma leadsBack_empty : LeadsBack ∅ := nofun

/-- A tag that is given a name is found by it, and of the others only the name is forgotten that
the tag had before. -/
lemma id?_insert (d : TagDictionary) (id : TagId) (name other : String) :
    (d.insert id name).id? other =
      if name = other then some id
      else if d.name? id = some other then none
      else d.id? other := by
  rw [id?, insert, OrderedMap.get?_insert, name?]
  cases d.names.get? id with
  | none => rfl
  | some old =>
    dsimp only
    rw [OrderedMap.get?_erase]
    simp only [Option.some.injEq]
    rfl

/-- A tag has the name that it was given last. -/
lemma name?_insert (d : TagDictionary) (id : TagId) (name : String) (other : TagId) :
    (d.insert id name).name? other = if id = other then some name else d.name? other :=
  OrderedMap.get?_insert _ _ _ _

/-- Names still lead to tags that have them when a tag is given a name. -/
lemma leadsBack_insert {d : TagDictionary} (h : d.LeadsBack) (id : TagId) (name : String) :
    (d.insert id name).LeadsBack := by
  intro other id' hid
  rw [id?_insert] at hid
  rw [name?_insert]
  split at hid
  next heq =>
    obtain rfl : id = id' := Option.some.inj hid
    rw [if_pos rfl, heq]
  next =>
    split at hid
    next => cases hid
    next hold =>
      have hname := h other id' hid
      -- the tag that is given a name had another one than this, which led to it
      have hne : id ≠ id' := by
        rintro rfl
        exact hold hname
      rw [if_neg hne, hname]

/-- **Whatever is done to a dictionary, a name leads to a tag that has it.** -/
lemma leadsBack_ofChanges (changes : List Change) : (ofChanges changes).LeadsBack := by
  rw [ofChanges]
  refine List.foldlRecOn changes _ leadsBack_empty fun d h c _ => ?_
  cases c with
  | insert id name => exact leadsBack_insert h id name
  | clear => exact leadsBack_empty

/-! ### Names that one tag has -/

/-- A name leads to exactly the tags that have it. -/
def TwoWay (d : TagDictionary) (name : String) : Prop :=
  ∀ id, d.id? name = some id ↔ d.name? id = some name

/-- A change that does not give a name to a tag while another has it. -/
def Change.Spares (d : TagDictionary) (name : String) : Change → Prop
  | insert id given => given = name → ∀ other, d.name? other = some name → other = id
  | clear => True

/-- Changes of which none gives a name to a tag while another has it. -/
def Unshared (name : String) : TagDictionary → List Change → Prop
  | _, [] => True
  | d, c :: rest => c.Spares d name ∧ Unshared name (c.apply d) rest

variable {d : TagDictionary} {name : String}

/-- In the dictionary without names every name leads to just the tags that have it, for there are
none. -/
lemma twoWay_empty (name : String) : TwoWay ∅ name := fun _ => ⟨nofun, nofun⟩

/-- A name that another tag is not given still leads to the tags that have it, of which the tag may
have been one. -/
lemma twoWay_insert_of_ne (h : d.TwoWay name) (id : TagId) {given : String}
    (hgiven : given ≠ name) : (d.insert id given).TwoWay name := by
  intro other
  rw [id?_insert, if_neg hgiven, name?_insert]
  by_cases hother : id = other
  · subst hother
    rw [if_pos rfl, Option.some.injEq]
    refine iff_of_false ?_ hgiven
    split
    next => nofun
    next hold => exact fun hid => hold ((h id).1 hid)
  · rw [if_neg hother]
    split
    next hold =>
      -- the name led to the tag alone, which has lost it
      have hid : d.id? name = some id := (h id).2 hold
      refine iff_of_false nofun fun hname => hother ?_
      exact Option.some.inj (hid.symm.trans ((h other).2 hname))
    next => exact h other

/-- A name that a tag is given leads to just this tag, so that no other may have it. -/
lemma twoWay_insert_self_iff (d : TagDictionary) (id : TagId) (name : String) :
    (d.insert id name).TwoWay name ↔ ∀ other, d.name? other = some name → other = id := by
  have hiff (other : TagId) : (some id = some other ↔
      (if id = other then some name else d.name? other) = some name) ↔
      (d.name? other = some name → other = id) := by
    by_cases hother : id = other
    · simp [hother]
    · simp [hother, Ne.symm hother]
  simp only [TwoWay, id?_insert, name?_insert, if_true, hiff]

/-- A name still leads to the tags that have it exactly if it is not given to a tag while another
has it. -/
lemma twoWay_apply_iff (h : d.TwoWay name) (c : Change) :
    (c.apply d).TwoWay name ↔ c.Spares d name := by
  cases c with
  | clear => exact iff_of_true (twoWay_empty name) trivial
  | insert id given =>
    by_cases hgiven : given = name
    · subst hgiven
      rw [Change.apply, twoWay_insert_self_iff, Change.Spares]
      exact ⟨fun hothers _ => hothers, fun hspares => hspares rfl⟩
    · exact iff_of_true (twoWay_insert_of_ne h id hgiven) (absurd · hgiven)

/-- A name leads at all times to the tags that have it exactly if it is never given to a tag while
another has it. -/
lemma twoWay_prefixes_iff (h : d.TwoWay name) (changes : List Change) :
    (∀ before, before <+: changes → (before.foldl Change.apply d).TwoWay name) ↔
      Unshared name d changes := by
  induction changes generalizing d with
  | nil => simpa [Unshared] using h
  | cons c changes ih =>
    have hsplit : (∀ before, before <+: c :: changes → (before.foldl Change.apply d).TwoWay name) ↔
        ∀ before, before <+: changes → (before.foldl Change.apply (c.apply d)).TwoWay name := by
      refine ⟨fun hall before hbefore => ?_, fun hall before hbefore => ?_⟩
      · exact hall (c :: before) (List.cons_prefix_cons.2 ⟨rfl, hbefore⟩)
      · rcases List.prefix_cons_iff.1 hbefore with rfl | ⟨rest, rfl, hrest⟩
        · exact h
        · exact hall rest hrest
    rw [hsplit, Unshared, ← twoWay_apply_iff h c]
    refine ⟨fun hall => ⟨hall [] List.nil_prefix, (ih (hall [] List.nil_prefix)).1 hall⟩, ?_⟩
    exact fun ⟨hstep, hrest⟩ => (ih hstep).2 hrest

/-- The dictionary of a list is the one in which its names are given one after another. -/
lemma ofList_eq_ofChanges (l : List (TagId × String)) :
    ofList l = ofChanges (l.map fun e => .insert e.1 e.2) := by
  rw [ofList, ofChanges, List.foldl_map]
  rfl

/-- A name that is given to one tag only is never given to a tag while another has it. -/
lemma unshared_of_forall {id : TagId} {l : List (TagId × String)}
    (hd : ∀ other, d.name? other = some name → other = id)
    (hl : ∀ e ∈ l, e.2 = name → e.1 = id) :
    Unshared name d (l.map fun e => .insert e.1 e.2) := by
  induction l generalizing d with
  | nil => trivial
  | cons e l ih =>
    have he : e.2 = name → e.1 = id := hl e (by simp)
    refine ⟨fun hgiven other hother => (hd other hother).trans (he hgiven).symm, ih ?_ ?_⟩
    · intro other hother
      rw [Change.apply, name?_insert] at hother
      split at hother
      next heq => exact heq ▸ he (Option.some.inj hother)
      next => exact hd other hother
    · exact fun f hf => hl f (by simp [hf])

/-! ### Names in a list -/

/-- A name that a list gives to one tag only leads to the tag that has it. -/
lemma twoWay_ofList {l : List (TagId × String)}
    (hl : ∀ e ∈ l, ∀ f ∈ l, e.2 = name → f.2 = name → e.1 = f.1) : (ofList l).TwoWay name := by
  obtain ⟨id, hid⟩ : ∃ id, ∀ e ∈ l, e.2 = name → e.1 = id := by
    by_cases h : ∃ f ∈ l, f.2 = name
    · obtain ⟨f, hf, hname⟩ := h
      exact ⟨f.1, fun e he hgiven => hl e he f hf hgiven hname⟩
    · exact ⟨0, fun e he hgiven => absurd ⟨e, he, hgiven⟩ h⟩
  rw [ofList_eq_ofChanges]
  exact (twoWay_prefixes_iff (twoWay_empty name) _).2 (unshared_of_forall nofun hid) _
    (List.prefix_refl _)

/-- No tag has a name. -/
def Nameless (d : TagDictionary) : Prop := ∀ id, d.name? id = none

/-- A dictionary is empty exactly if no tag has a name. -/
lemma isEmpty_iff_nameless (d : TagDictionary) : d.isEmpty = true ↔ d.Nameless := by
  rw [isEmpty, OrderedMap.isEmpty, List.isEmpty_iff, List.eq_nil_iff_forall_not_mem]
  constructor
  · intro h id
    rw [Option.eq_none_iff_forall_ne_some]
    exact fun name hname => h (id, name) (OrderedMap.mem_entries_iff.2 hname)
  · intro h e he
    have hname : d.name? e.1 = some e.2 := OrderedMap.mem_entries_iff.1 he
    rw [h e.1] at hname
    cases hname

/-! ### Names that are shared -/

/-- **A name leads to the tags that have it unless it has been shared.** Whatever is done to a
dictionary, a tag to which a name leads has this name. The name leads at all times to each tag that
has it exactly if it is never given to a tag while another has it. So it is in the dictionary of a
list that gives the name to one tag only. -/
theorem twoWay_iff_unshared (name : String) :
    (∀ changes id, (ofChanges changes).id? name = some id →
      (ofChanges changes).name? id = some name) ∧
    (∀ changes, (∀ before, before <+: changes → (ofChanges before).TwoWay name) ↔
      Unshared name ∅ changes) ∧
    ∀ l : List (TagId × String), (∀ e ∈ l, ∀ f ∈ l, e.2 = name → f.2 = name → e.1 = f.1) →
      (ofList l).TwoWay name := by
  exact ⟨fun changes id => leadsBack_ofChanges changes name id,
    fun changes => twoWay_prefixes_iff (twoWay_empty name) changes, fun l => twoWay_ofList⟩

/-- A tag that shared its name is no longer found by it once the other tag has been renamed. -/
theorem name_leads_nowhere_of_shared :
    let d := ofChanges [.insert 1 "cat", .insert 2 "cat", .insert 1 "dog"]
    d.name? 2 = some "cat" ∧ d.id? "cat" = none := by
  decide +kernel

end TagCatalog.TagDictionary
