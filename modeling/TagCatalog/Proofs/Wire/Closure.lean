import Mathlib.Tactic
import TagCatalog.Proofs.Wire.Readers

/-!
Properties that pass from the smallest readers to the reader of records.

What is said of all errors, or of all cuts, is said of each reader by way of its
parts, and in the same order each time. Here this is done once, for any relation that
holds between each of the smallest readers and itself, started from two places, and
between one reader after another and two others if it holds of the parts.

* `Read.Related`: such a relation. It may speak of the places that have been reached,
  for a reader that asks for its position names that place in its errors.
* `Related.vli`, `Related.count`, `Related.string`, `Related.tags`,
  `Related.attributes`, up to `Related.record`.
* `Read.Closed`: the same for a property, which speaks of one reader and one place;
  `Closed.record`.
-/

namespace TagCatalog.Wire.Read

variable {α β σ : Type}

/-! ### Relations -/

/-- A relation between readers from two places on, which holds between each of the
smallest readers and itself, between two readers one after the other if it holds of the
first and of the second from the same places on, and between two readers that ask for
their position if it holds from there on. -/
structure Related (R : {α : Type} → Nat → Nat → Read α → Read α → Prop) : Prop where
  pure {α : Type} {start start' : Nat} (a : α) :
    R start start' (Pure.pure a : Read α) (Pure.pure a)
  failAt {α : Type} {start start' : Nat} (fault : PayloadFault) :
    R start start' (failAt fun _ => .malformed start fault : Read α)
      (failAt fun _ => .malformed start' fault)
  take {start start' : Nat} (n : Nat) : R start start' (take n) (take n)
  byte {start start' : Nat} : R start start' byte byte
  ensure {start start' : Nat} (needed : Nat) :
    R start start' (ensure start needed) (ensure start' needed)
  hash {start start' : Nat} : R start start' hash hash
  bind {α β : Type} {start start' : Nat} {r r' : Read α} {f f' : α → Read β} :
    R start start' r r' → (∀ a, R start start' (f a) (f' a)) →
      R start start' (r >>= f) (r' >>= f')
  position_bind {α : Type} {start start' : Nat} {f f' : Nat → Read α} :
    (∀ here here', R here here' (f here) (f' here')) →
      R start start' (position >>= f) (position >>= f')

namespace Related

variable {R : {α : Type} → Nat → Nat → Read α → Read α → Prop} (hR : Related R)
  {start start' : Nat}

include hR

/-- What becomes of an answer does not matter. -/
lemma map {r r' : Read α} (g : α → β) (hr : R start start' r r') :
    R start start' (g <$> r) (g <$> r') := by
  rw [map_eq_pure_bind, map_eq_pure_bind]
  exact hR.bind hr fun a => hR.pure (g a)

/-- A field that is not wanted is not read. -/
lemma when {r r' : Read α} (hr : R start start' r r') (wanted : Bool) :
    R start start' (when wanted r) (when wanted r') := by
  cases wanted with
  | false => exact hR.pure none
  | true => exact hR.map some hr

/-- Steps one after another. -/
lemma times {step : σ → Read σ} (h : ∀ s, R start start' (step s) (step s)) (n : Nat)
    (s : σ) : R start start' (times step n s) (times step n s) := by
  induction n generalizing s with
  | zero => exact hR.pure s
  | succ n ih => exact hR.bind (h s) ih

/-- A number of fixed width is its bytes. -/
lemma uint (width : Nat) : R start start' (uint width) (uint width) :=
  hR.map _ (hR.take width)

/-- A number is a marker and the bytes behind it. -/
lemma vli : R start start' vli vli := by
  refine hR.bind hR.byte fun marker => ?_
  split
  · exact hR.bind (hR.uint _) fun _ => hR.pure _
  · exact hR.pure _

/-- A count is a number, which is refused where it begins. -/
lemma count (least : Nat) : R start start' (count least) (count least) :=
  hR.position_bind fun _ _ => hR.bind hR.vli fun _ => hR.bind (hR.ensure _) fun _ => hR.pure _

/-- A text is a length, which is refused where it begins, and bytes, which are refused
where they begin. -/
lemma string : R start start' string string := by
  refine hR.position_bind fun _ _ => hR.bind hR.vli fun length => ?_
  split
  · exact hR.failAt _
  · refine hR.position_bind fun _ _ => hR.bind (hR.take _) fun bytes => ?_
    split
    · exact hR.pure _
    · exact hR.failAt _

/-- A tag with its user is two numbers. -/
lemma tagEntry (m : TagMap) : R start start' (tagEntry m) (tagEntry m) :=
  hR.bind hR.vli fun _ => hR.bind hR.vli fun _ => hR.pure _

/-- A value with its user is a text and a number. -/
lemma valueEntry (m : OrderedMap String UserId) :
    R start start' (valueEntry m) (valueEntry m) :=
  hR.bind hR.string fun _ => hR.bind hR.vli fun _ => hR.pure _

/-- A key with its values is a text and counted values. -/
lemma keyEntry (m : AttributeMap) : R start start' (keyEntry m) (keyEntry m) :=
  hR.bind hR.string fun _ =>
    hR.bind (hR.bind (hR.count _) fun n => hR.times hR.valueEntry n _) fun _ => hR.pure _

/-- Tags are counted. -/
lemma tags : R start start' tags tags := by
  refine hR.bind (hR.count _) fun n => ?_
  rw [tagEntries_eq_times]
  exact hR.times hR.tagEntry n ∅

/-- Attributes are counted keys. -/
lemma attributes : R start start' attributes attributes := by
  refine hR.bind (hR.count _) fun n => ?_
  rw [keyEntries_eq_times]
  exact hR.times hR.keyEntry n ∅

/-- A record is the fields that are wanted. -/
lemma record (fields : FieldSet) : R start start' (record fields) (record fields) :=
  hR.bind (hR.when (hR.map _ (hR.uint _)) _) fun _ =>
    hR.bind (hR.when hR.hash _) fun _ => hR.bind (hR.when hR.tags _) fun _ =>
      hR.bind (hR.when hR.attributes _) fun _ => hR.pure _

end Related

/-! ### Properties -/

/-- A property of readers from a place on, which holds of the smallest readers, of one
reader after another from the same place on, and of a reader that asks for its
position if it holds from there on. -/
structure Closed (P : {α : Type} → Nat → Read α → Prop) : Prop where
  pure {α : Type} {start : Nat} (a : α) : P start (Pure.pure a : Read α)
  failAt {α : Type} {start : Nat} (fault : PayloadFault) :
    P start (failAt fun _ => .malformed start fault : Read α)
  take {start : Nat} (n : Nat) : P start (take n)
  byte {start : Nat} : P start byte
  ensure {start : Nat} (needed : Nat) : P start (ensure start needed)
  hash {start : Nat} : P start hash
  bind {α β : Type} {start : Nat} {r : Read α} {f : α → Read β} :
    P start r → (∀ a, P start (f a)) → P start (r >>= f)
  position_bind {α : Type} {start : Nat} {f : Nat → Read α} :
    (∀ here, P here (f here)) → P start (position >>= f)

namespace Closed

variable {P : {α : Type} → Nat → Read α → Prop} (hP : Closed P)

include hP

/-- A property of one reader is a relation that does not look at the other. -/
lemma related : Related fun start _ r _ => P start r where
  pure := hP.pure
  failAt := hP.failAt
  take := hP.take
  byte := hP.byte
  ensure := hP.ensure
  hash := hP.hash
  bind := hP.bind
  position_bind h := hP.position_bind fun here => h here here

/-- A record has the property, wherever it begins. -/
lemma record {start : Nat} (fields : FieldSet) : P start (record fields) :=
  @Related.record _ hP.related start start fields

end Closed

end TagCatalog.Wire.Read
