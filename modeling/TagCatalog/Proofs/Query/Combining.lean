import Mathlib.Data.List.TakeWhile
import Mathlib.Data.Nat.Log
import Mathlib.Tactic
import TagCatalog.CommandLine.Filter

/-!
Many filters as one.

* `Operator.Joined`: a filter joined of the filters of a list, each used once and in order.
* `Operator.holds`: whether a filter holds, when it is known which of its leaves do;
  `Joined.holds_and_iff`, `Joined.holds_or_iff`: a conjunction holds if all of its parts do, a
  disjunction if one does.
* `Operator.Combines`: a joined filter that is as shallow as its parts allow.
* `CommandLine.Describes`: the attributes that a description stands for.
* `Operator.combined_exactly`: what is made of many filters, and of the arguments of a search.

Two inductions along the rounds of pairing carry the depth: no filter gets deeper by more than one a
round (`depth_balanced_le`), and the first one gets deeper with every round if none is deeper
(`depth_balanced_of_head`). A round halves the list and rounds up (`length_pairUp`), so that there
are as many rounds as the binary logarithm of its length, rounded up (`clog_length_cons_cons`).
-/

namespace TagCatalog

namespace Operator

variable {join : Operator → Operator → Operator} {l : List Operator} {op : Operator}

/-! ### Joined filters -/

/-- A filter joined of the filters of a list, each used once and in order. -/
inductive Joined (join : Operator → Operator → Operator) : List Operator → Operator → Prop
  | one (op : Operator) : Joined join [op] op
  | both {l r : List Operator} {a b : Operator} (hl : Joined join l a) (hr : Joined join r b) :
    Joined join (l ++ r) (join a b)

/-- If the filters of a list are joined themselves, what is joined of them is joined of all their
parts. -/
lemma Joined.flatten (h : Joined join l op) {groups : List (List Operator)}
    (hgroups : List.Forall₂ (Joined join) groups l) : Joined join groups.flatten op := by
  induction h generalizing groups with
  | one op =>
    obtain ⟨group, _, hop, hnil, rfl⟩ := List.forall₂_cons_right_iff.1 hgroups
    rw [List.forall₂_nil_right_iff] at hnil
    subst hnil
    simpa using hop
  | @both left right a b hl hr ihl ihr =>
    have hleft := List.forall₂_take_append groups left right hgroups
    have hright := List.forall₂_drop_append groups left right hgroups
    rw [← List.take_append_drop left.length groups, List.flatten_append]
    exact .both (ihl hleft) (ihr hright)

/-! ### One round -/

/-- A round of pairing joins neighbours, and leaves a last one without neighbour as it is. -/
lemma exists_groups_pairUp (join : Operator → Operator → Operator) (l : List Operator) :
    ∃ groups : List (List Operator), groups.flatten = l ∧
      List.Forall₂ (Joined join) groups (pairUp join l) := by
  fun_induction pairUp join l with
  | case1 left right rest ih =>
    obtain ⟨groups, hflatten, hgroups⟩ := ih
    have hpair : Joined join [left, right] (join left right) := .both (.one left) (.one right)
    exact ⟨[left, right] :: groups, by rw [List.flatten_cons, hflatten]; rfl, .cons hpair hgroups⟩
  | case2 rest hrest =>
    refine ⟨rest.map ([·]), by simp [← List.flatMap_def], ?_⟩
    rw [List.forall₂_map_left_iff]
    exact List.forall₂_same.2 fun a _ => .one a

/-- A round halves a list, and rounds up. -/
lemma length_pairUp (join : Operator → Operator → Operator) (l : List Operator) :
    (pairUp join l).length = (l.length + 1) / 2 := by
  fun_induction pairUp join l with
  | case1 left right rest ih =>
    simp only [List.length_cons, ih]
    omega
  | case2 rest hrest =>
    obtain _ | ⟨left, _ | ⟨right, rest⟩⟩ := rest
    · rfl
    · simp
    · exact absurd rfl (hrest left right rest)

/-- A list of two and more takes one round more than its half. -/
lemma clog_length_cons_cons (join : Operator → Operator → Operator) (left right : Operator)
    (rest : List Operator) :
    Nat.clog 2 (left :: right :: rest).length =
      Nat.clog 2 (join left right :: pairUp join rest).length + 1 := by
  rw [Nat.clog_of_two_le one_lt_two (by simp)]
  simp only [List.length_cons, length_pairUp]
  congr 2
  omega

/-- A way of joining two filters that nests them one deeper. -/
def Nests (join : Operator → Operator → Operator) : Prop :=
  ∀ a b, (join a b).depth = 1 + max a.depth b.depth

/-- A round makes no filter deeper than by one. -/
lemma depth_le_of_mem_pairUp (hjoin : Nests join) {d : Nat} (h : ∀ a ∈ l, a.depth ≤ d) :
    ∀ a ∈ pairUp join l, a.depth ≤ d + 1 := by
  fun_induction pairUp join l with
  | case1 left right rest ih =>
    rw [List.forall_mem_cons, List.forall_mem_cons] at h
    obtain ⟨hleft, hright, hrest⟩ := h
    rw [List.forall_mem_cons]
    refine ⟨?_, ih hrest⟩
    rw [hjoin]
    omega
  | case2 rest _ => exact fun a ha => (h a ha).trans (Nat.le_succ d)

/-! ### All rounds -/

/-- Of filters, one and more, one is made. -/
lemma exists_balanced (join : Operator → Operator → Operator) (h : l ≠ []) :
    ∃ op, balanced join l = some op ∧ Joined join l op := by
  fun_induction balanced join l with
  | case1 => exact absurd rfl h
  | case2 op => exact ⟨op, rfl, .one op⟩
  | case3 left right rest ih =>
    obtain ⟨op, hop, hjoined⟩ := ih (by simp)
    obtain ⟨groups, hflatten, hgroups⟩ := exists_groups_pairUp join (left :: right :: rest)
    rw [pairUp] at hgroups
    exact ⟨op, hop, hflatten ▸ hjoined.flatten hgroups⟩

/-- The filter that is made is deeper than its parts by one for each round at most. -/
lemma depth_balanced_le (hjoin : Nests join) {d : Nat} (h : ∀ a ∈ l, a.depth ≤ d)
    (hop : balanced join l = some op) : op.depth ≤ d + Nat.clog 2 l.length := by
  fun_induction balanced join l generalizing d with
  | case1 => cases hop
  | case2 a =>
    cases hop
    exact (h op (by simp)).trans (Nat.le_add_right ..)
  | case3 left right rest ih =>
    have hround := depth_le_of_mem_pairUp hjoin h
    rw [pairUp] at hround
    have hdepth := ih hround hop
    rw [clog_length_cons_cons join]
    omega

/-- If the first part is as deep as any, it gets one deeper with each round. -/
lemma depth_balanced_of_head (hjoin : Nests join) {a : Operator}
    (h : ∀ b ∈ l, b.depth ≤ a.depth) (hop : balanced join (a :: l) = some op) :
    op.depth = a.depth + Nat.clog 2 (a :: l).length := by
  generalize hl : a :: l = ops at hop
  fun_induction balanced join ops generalizing a l with
  | case1 => cases hl
  | case2 b =>
    cases hl
    cases hop
    simp
  | case3 left right rest ih =>
    cases hl
    rw [List.forall_mem_cons] at h
    have hfirst : (join left right).depth = left.depth + 1 := by
      rw [hjoin]
      omega
    have hround : ∀ b ∈ pairUp join rest, b.depth ≤ (join left right).depth := by
      rw [hfirst]
      exact depth_le_of_mem_pairUp hjoin h.2
    have hdepth := ih hround rfl hop
    rw [clog_length_cons_cons join, hdepth, hfirst]
    omega

/-- The greatest depth in a list. -/
def greatestDepth (l : List Operator) : Nat := (l.map depth).foldr max 0

lemma depth_le_greatestDepth {a : Operator} (h : a ∈ l) : a.depth ≤ greatestDepth l := by
  induction l with
  | nil => cases h
  | cons b l ih =>
    rw [greatestDepth, List.map_cons, List.foldr_cons]
    obtain rfl | h := List.mem_cons.1 h
    · exact le_max_left ..
    · exact (ih h).trans (le_max_right ..)

/-- A filter joined of all filters of a list that is deeper than the deepest of them by the binary
logarithm of their number, rounded up, at most; and just by that if they are of one depth. -/
structure Combines (join : Operator → Operator → Operator) (l : List Operator) (op : Operator) :
    Prop where
  joined : Joined join l op
  depth_le : op.depth ≤ greatestDepth l + Nat.clog 2 l.length
  depth_eq : ∀ d, (∀ a ∈ l, a.depth = d) → op.depth = d + Nat.clog 2 l.length

/-- Of filters, one and more, one is made that combines them. -/
lemma exists_combines (hjoin : Nests join) (h : l ≠ []) :
    ∃ op, balanced join l = some op ∧ Combines join l op := by
  obtain ⟨op, hop, hjoined⟩ := exists_balanced join h
  refine ⟨op, hop, hjoined, ?_, fun d hd => ?_⟩
  · exact depth_balanced_le hjoin (fun a ha => depth_le_greatestDepth ha) hop
  · obtain ⟨a, l, rfl⟩ := List.exists_cons_of_ne_nil h
    rw [List.forall_mem_cons] at hd
    have hle : ∀ b ∈ l, b.depth ≤ a.depth := fun b hb => by rw [hd.1, hd.2 b hb]
    rw [depth_balanced_of_head hjoin hle hop, hd.1]

/-! ### What filters mean -/

/-- Whether a filter holds, when it is known which leaves do. -/
def holds (leaf : Operator → Bool) : Operator → Bool
  | not inner => !inner.holds leaf
  | and l r => l.holds leaf && r.holds leaf
  | or l r => l.holds leaf || r.holds leaf
  | tag id => leaf (tag id)
  | hasAttribute key value => leaf (hasAttribute key value)
  | minId id => leaf (minId id)
  | maxId id => leaf (maxId id)

/-- A conjunction holds if all of its parts do. -/
lemma Joined.holds_and_iff (h : Joined and l op) (leaf : Operator → Bool) :
    op.holds leaf = true ↔ ∀ a ∈ l, a.holds leaf = true := by
  induction h with
  | one op => simp
  | both hl hr ihl ihr => rw [holds, Bool.and_eq_true, ihl, ihr, List.forall_mem_append]

/-- A disjunction holds if one of its parts does. -/
lemma Joined.holds_or_iff (h : Joined or l op) (leaf : Operator → Bool) :
    op.holds leaf = true ↔ ∃ a ∈ l, a.holds leaf = true := by
  induction h with
  | one op => simp
  | both hl hr ihl ihr =>
    rw [holds, Bool.or_eq_true, ihl, ihr]
    simp only [List.mem_append, or_and_right, exists_or]

end Operator

/-! ### Filters of the command line -/

namespace CommandLine

open Operator

/-- What a description of an attribute stands for: a key, which is not empty and holds no equals
sign, with any value, or with the one behind the first equals sign. -/
inductive Describes : String → Operator → Prop
  | key {key : String} (hkey : '=' ∉ key.toList) (hne : key ≠ "") :
    Describes key (.hasAttribute key none)
  | value {key : String} (value : String) (hkey : '=' ∉ key.toList) (hne : key ≠ "") :
    Describes (key ++ "=" ++ value) (.hasAttribute key (some value))

lemma attributeFilter_of_key {s : String} (hkey : '=' ∉ s.toList) (hne : s ≠ "") :
    attributeFilter s = .ok (.hasAttribute s none) := by
  have hall : ∀ c ∈ s.toList, decide (c ≠ '=') = true := fun c hc =>
    decide_eq_true (ne_of_mem_of_not_mem hc hkey)
  have hempty : ¬ s.toList.isEmpty = true := by simpa using hne
  rw [attributeFilter, List.dropWhile_eq_nil_iff.2 hall]
  dsimp only
  rw [List.takeWhile_eq_self_iff.2 hall, if_neg hempty]

lemma attributeFilter_of_value {key : String} (value : String) (hkey : '=' ∉ key.toList)
    (hne : key ≠ "") :
    attributeFilter (key ++ "=" ++ value) = .ok (.hasAttribute key (some value)) := by
  have hall : ∀ c ∈ key.toList, decide (c ≠ '=') = true := fun c hc =>
    decide_eq_true (ne_of_mem_of_not_mem hc hkey)
  have hlist : (key ++ "=" ++ value).toList = key.toList ++ '=' :: value.toList := by
    simp [String.toList_append]
  have htake : (key.toList ++ '=' :: value.toList).takeWhile (· ≠ '=') = key.toList := by
    rw [List.takeWhile_append_of_pos hall]
    simp
  have hdrop : (key.toList ++ '=' :: value.toList).dropWhile (· ≠ '=') = '=' :: value.toList := by
    rw [List.dropWhile_append_of_pos hall]
    simp
  rw [attributeFilter, hlist, htake, hdrop]
  simp [hne]

lemma describes_of_attributeFilter {s : String} {op : Operator} (h : attributeFilter s = .ok op) :
    Describes s op := by
  have happend : s.toList.takeWhile (· ≠ '=') ++ s.toList.dropWhile (· ≠ '=') = s.toList :=
    List.takeWhile_append_dropWhile
  have hkey : '=' ∉ s.toList.takeWhile (· ≠ '=') := fun hmem => by
    simpa using List.mem_takeWhile_imp hmem
  rw [attributeFilter] at h
  split at h
  next hdrop =>
    split_ifs at h with hempty
    cases h
    rw [hdrop, List.append_nil] at happend
    rw [happend] at hkey hempty
    exact .key hkey fun hs => hempty (by simp [hs])
  next c value hdrop =>
    split_ifs at h with hempty
    cases h
    have hc : c = '=' := by
      have hfirst := List.find?_not_eq_head?_dropWhile s.toList (p := (· ≠ '='))
      rw [hdrop, List.head?_cons] at hfirst
      simpa using List.find?_some hfirst
    have hs : String.ofList (s.toList.takeWhile (· ≠ '=')) ++ "=" ++ String.ofList value = s := by
      rw [hdrop, hc] at happend
      rw [← String.toList_inj]
      simpa using happend
    have hne : String.ofList (s.toList.takeWhile (· ≠ '=')) ≠ "" := fun hnil => by
      rw [← String.toList_inj, String.toList_ofList] at hnil
      exact hempty (List.isEmpty_iff.2 hnil)
    have hdescribes := Describes.value (String.ofList value)
      (by rwa [String.toList_ofList]) hne
    rwa [hs] at hdescribes

/-- A description is taken for what it stands for, and for nothing else. -/
lemma attributeFilter_eq_ok_iff {s : String} {op : Operator} :
    attributeFilter s = .ok op ↔ Describes s op := by
  refine ⟨describes_of_attributeFilter, fun h => ?_⟩
  cases h with
  | key hkey hne => exact attributeFilter_of_key hkey hne
  | value value hkey hne => exact attributeFilter_of_value value hkey hne

/-- What a description stands for has no parts. -/
lemma Describes.holds_eq {s : String} {op : Operator} (h : Describes s op)
    (leaf : Operator → Bool) : op.holds leaf = leaf op := by
  cases h <;> rw [holds]

lemma forall_holds_iff {l : List String} {ops : List Operator} (h : List.Forall₂ Describes l ops)
    {leaf : Operator → Bool} :
    (∀ a ∈ ops, a.holds leaf = true) ↔ ∀ a ∈ ops, leaf a = true := by
  induction h with
  | nil => simp
  | cons hop _ ih => rw [List.forall_mem_cons, List.forall_mem_cons, hop.holds_eq, ih]

/-- Descriptions are taken one by one. -/
lemma mapM_attributeFilter {l : List String} (h : ∀ s ∈ l, ∃ op, attributeFilter s = .ok op) :
    ∃ ops, l.mapM attributeFilter = .ok ops ∧ List.Forall₂ Describes l ops := by
  induction l with
  | nil => exact ⟨[], rfl, .nil⟩
  | cons s l ih =>
    rw [List.forall_mem_cons] at h
    obtain ⟨⟨op, hop⟩, hl⟩ := h
    obtain ⟨ops, hops, hall⟩ := ih hl
    refine ⟨op :: ops, ?_, .cons (attributeFilter_eq_ok_iff.1 hop) hall⟩
    rw [List.mapM_cons, hop, hops]
    rfl

end CommandLine

namespace Operator

open CommandLine

/-- **Combined filters mean what they say and stay shallow.** Of filters, one and more, one is made
that combines all of them, in their order: as a conjunction, which holds if all of them do, or as a
disjunction, which holds if one does. The filter of a search whose descriptions of attributes all
stand for something combines each tag, each tag that must not be there, each attribute and the
bounds of the id; there is no filter exactly if none of these are given. -/
theorem combined_exactly :
    (∀ l : List Operator, l ≠ [] → ∃ op, allOf l = some op ∧ Combines and l op ∧
      ∀ leaf, op.holds leaf = true ↔ ∀ a ∈ l, a.holds leaf = true) ∧
    (∀ l : List Operator, l ≠ [] → ∃ op, anyOf l = some op ∧ Combines or l op ∧
      ∀ leaf, op.holds leaf = true ↔ ∃ a ∈ l, a.holds leaf = true) ∧
    ∀ args : SearchArgs, (∀ s ∈ args.attributes, ∃ op, attributeFilter s = .ok op) →
      (args.filter = .ok none ↔ args.tags = [] ∧ args.notTags = [] ∧ args.attributes = [] ∧
        args.minId = none ∧ args.maxId = none) ∧
      ∃ attributes, List.Forall₂ Describes args.attributes attributes ∧
        (args.filter ≠ .ok none → ∃ op, args.filter = .ok (some op) ∧
          Combines and (args.tags.map tag ++ args.notTags.map (fun t => not (tag t)) ++
            attributes ++ args.minId.toList.map minId ++ args.maxId.toList.map maxId) op ∧
          ∀ leaf, op.holds leaf = true ↔
            (∀ t ∈ args.tags, leaf (tag t) = true) ∧ (∀ t ∈ args.notTags, leaf (tag t) = false) ∧
            (∀ a ∈ attributes, leaf a = true) ∧ (∀ n ∈ args.minId, leaf (minId n) = true) ∧
            ∀ n ∈ args.maxId, leaf (maxId n) = true) := by
  have hand : Nests and := fun _ _ => rfl
  have hor : Nests or := fun _ _ => rfl
  refine ⟨fun l hl => ?_, fun l hl => ?_, fun args hargs => ?_⟩
  · obtain ⟨op, hop, hcombines⟩ := exists_combines hand hl
    exact ⟨op, hop, hcombines, hcombines.joined.holds_and_iff⟩
  · obtain ⟨op, hop, hcombines⟩ := exists_combines hor hl
    exact ⟨op, hop, hcombines, hcombines.joined.holds_or_iff⟩
  · obtain ⟨attributes, hmapM, hall⟩ := mapM_attributeFilter hargs
    have hattributes : attributes = [] ↔ args.attributes = [] := by
      rw [← List.length_eq_zero_iff, ← List.length_eq_zero_iff, hall.length_eq]
    generalize hterms : args.tags.map tag ++ args.notTags.map (fun t => not (tag t)) ++
      attributes ++ args.minId.toList.map minId ++ args.maxId.toList.map maxId = terms
    have hfilter : args.filter = .ok (allOf terms) := by
      rw [SearchArgs.filter, SearchArgs.terms, hmapM, ← hterms]
      rfl
    have hnil : terms = [] ↔ args.tags = [] ∧ args.notTags = [] ∧ args.attributes = [] ∧
        args.minId = none ∧ args.maxId = none := by
      rw [← hterms, ← hattributes]
      simp
    by_cases h : terms = []
    · rw [hfilter, h]
      exact ⟨by simp [← hnil, h, allOf, balanced], attributes, hall, fun hne => by
        simp [allOf, balanced] at hne⟩
    · obtain ⟨op, hop, hcombines⟩ := exists_combines hand h
      have hsome : args.filter = .ok (some op) := by rw [hfilter, allOf, hop]
      refine ⟨by simp [← hnil, h, hsome], attributes, hall, fun _ => ⟨op, hsome, ?_, ?_⟩⟩
      · rwa [hterms]
      · intro leaf
        rw [hcombines.joined.holds_and_iff, ← hterms]
        simp only [List.forall_mem_append, List.forall_mem_map, holds, Bool.not_eq_true',
          Option.mem_toList, and_assoc]
        rw [forall_holds_iff hall]
        rfl

end Operator

end TagCatalog
