import Mathlib.Tactic
import TagCatalog.CommandLine.Run
import TagCatalog.Proofs.Json.RoundTrip
import TagCatalog.Proofs.OrderedMap
import TagCatalog.Proofs.Query.RoundTrip
import TagCatalog.Proofs.Session.Knowledge

/-!
Searches, settings and what the service tells are read back from their texts.

* `Json.nesting`: how many lists and objects a value opens inside each other; for a search these are
  its levels (`SearchQuery.nesting_toJson`).
* `ServiceTag.shape_toJson` and its likes: a value is read back from its JSON.
* `ServiceTag.isReadable_toJson` and its likes: that JSON has no unreadable parts.
* `Shape.ReadsBack`: a value is read back from both texts of its JSON.
* `texts_read_back`: every value is, and the names of tags are from a printed list.
-/

namespace TagCatalog

/-! ### Nesting -/

namespace Json

mutual

/-- How many lists and objects a value opens inside each other. -/
def nesting : Json → Nat
  | list items => nestingItems items + 1
  | object members => nestingMembers members + 1
  | null | bool _ | int _ | text _ | unreadable => 0

/-- The deepest nesting of items. -/
def nestingItems : List Json → Nat
  | [] => 0
  | j :: rest => max j.nesting (nestingItems rest)

/-- The deepest nesting of the values of members. -/
def nestingMembers : List (String × Json) → Nat
  | [] => 0
  | (_, j) :: rest => max j.nesting (nestingMembers rest)

end

end Json

open Json

lemma Operator.nesting_toJson (op : Operator) : op.toJson.nesting = op.levels := by
  induction op with
  | not inner ih => simp [toJson, levels, nesting, nestingMembers, ih]
  | and l r ihl ihr => simp [toJson, levels, nesting, nestingMembers, nestingItems, ihl, ihr]
  | or l r ihl ihr => simp [toJson, levels, nesting, nestingMembers, nestingItems, ihl, ihr]
  | hasAttribute key value =>
    cases value <;>
      simp [toJson, levels, nesting, nestingMembers, nestingItems, Json.ofOption]
  | tag id => simp [toJson, levels, nesting, nestingMembers, Json.ofNat]
  | minId id => simp [toJson, levels, nesting, nestingMembers, Json.ofNat]
  | maxId id => simp [toJson, levels, nesting, nestingMembers, Json.ofNat]

lemma SearchQuery.nesting_toJson (q : SearchQuery) : q.toJson.nesting = q.levels := by
  obtain ⟨select, orderBy, limit, operator⟩ := q
  have hselect : nestingItems (select.map fun s => .text s.name) = 0 := by
    induction select with
    | nil => rfl
    | cons s select ih => rw [List.map_cons, nestingItems, ih, nesting, Nat.max_self]
  cases orderBy <;> cases limit <;> cases operator <;>
    simp [toJson, levels, ofPresent, nesting, nestingMembers, Json.ofNat, hselect,
      Operator.nesting_toJson]

/-! ### Single values -/

namespace Shape

variable {α : Type} {room : Nat}

@[simp] lemma word32_ofNat (n : UInt32) : word32 room (.ofNat n.toNat) = some n := by
  have hlt : n.toNat < UInt32.size := n.toNat_lt_size
  simp [word32, natBelow, Json.ofNat, hlt]

@[simp] lemma signed64_toInt (n : Int64) : signed64 room (.int n.toInt) = some n := by
  have hmin : Int64.minValue.toInt ≤ n.toInt := n.minValue_le_toInt
  have hmax : n.toInt ≤ Int64.maxValue.toInt := n.toInt_le
  rw [signed64, if_pos ⟨hmin, hmax⟩, Int64.ofInt_toInt]

@[simp] lemma bool_bool (b : Bool) : bool room (.bool b) = some b := by rw [bool]

@[simp] lemma hash_toHex (h : ImageHash) : hash room (.text h.toHex) = some h := by
  rw [hash, text_text, Option.bind_eq_bind, Option.bind_some, ImageHash.parse_toHex]
  rfl

/-- A map is read back from the object of its entries, if their values are. -/
lemma map_entries {shape : Shape α} {toJson : α → Json} {m : OrderedMap String α}
    (h : ∀ a, shape room (toJson a) = some a) :
    map shape (room + 1) (.object (m.entries.map fun e => (e.1, toJson e.2))) = some m := by
  have hall : (m.entries.map fun e => (e.1, toJson e.2)).mapM
      (fun m => do return (m.1, ← shape room m.2)) = some m.entries :=
    mapM_map_eq_some fun e _ => by simp [h]
  rw [map, hall]
  exact congrArg some m.ofList_entries

end Shape

/-! ### Structures -/

lemma ServiceTag.shape_toJson (t : ServiceTag) {room : Nat} :
    shape (room + 1) t.toJson = some t := by
  simp [shape, toJson, Fields.ofJson, Fields.required, Fields.withDefault, List.lookup_cons]

lemma ServiceImage.shape_toJson (i : ServiceImage) {room : Nat} :
    shape (room + 3) i.toJson = some i := by
  have htags : Shape.list Shape.word64 (room + 2) (.list (i.tags.map fun t => .ofNat t.toNat)) =
      some i.tags := Shape.list_map fun t _ => Shape.word64_ofNat t
  have hvalues (l : List String) :
      Shape.list Shape.text (room + 1) (.list (l.map .text)) = some l :=
    Shape.list_map fun s _ => Shape.text_text s
  have hattributes : Shape.map (Shape.list Shape.text) (room + 2)
      (.object (i.attributes.entries.map fun e => (e.1, .list (e.2.map .text)))) =
        some i.attributes := Shape.map_entries hvalues
  simp [shape, toJson, Fields.ofJson, Fields.required, Fields.withDefault, List.lookup_cons, htags,
    hattributes]

lemma LogEntry.shape_toJson (e : LogEntry) {room : Nat} :
    shape (room + 1) e.toJson = some e := by
  have hhash : Shape.optional Shape.hash room
      (.ofOption (fun h => .text h.toHex) e.imageHash) = some e.imageHash :=
    Shape.optional_ofOption fun h _ => ⟨Shape.hash_toHex h, Json.noConfusion⟩
  simp [shape, toJson, Fields.ofJson, Fields.required, Fields.withDefault, List.lookup_cons, hhash]

lemma RetrySettings.shape_toJson (r : RetrySettings) {room : Nat} :
    shape (room + 1) r.toJson = some r := by
  simp [shape, toJson, Fields.ofJson, Fields.withDefault, List.lookup_cons]

lemma WireFormat.shape_text (f : WireFormat) {room : Nat} : shape room (.text f.name) = some f := by
  cases f <;> rfl

lemma Settings.shape_toJson (s : Settings) {room : Nat} :
    shape (room + 2) s.toJson = some s := by
  simp [shape, toJson, Fields.ofJson, Fields.withDefault, List.lookup_cons,
    RetrySettings.shape_toJson, WireFormat.shape_text]

/-! ### Readable values -/

lemma Operator.isReadable_toJson (op : Operator) : op.toJson.IsReadable := by
  induction op with
  | not inner ih => simp [toJson, ih]
  | and l r ihl ihr => simp [toJson, ihl, ihr]
  | or l r ihl ihr => simp [toJson, ihl, ihr]
  | hasAttribute key value => simp [toJson, IsReadable.ofOption IsReadable.text]
  | _ => simp [toJson]

lemma SearchQuery.isReadable_toJson (q : SearchQuery) : q.toJson.IsReadable := by
  obtain ⟨select, orderBy, limit, operator⟩ := q
  cases orderBy <;> cases limit <;> cases operator <;>
    simp [toJson, ofPresent, Operator.isReadable_toJson]

lemma ServiceTag.isReadable_toJson (t : ServiceTag) : t.toJson.IsReadable := by simp [toJson]

lemma ServiceImage.isReadable_toJson (i : ServiceImage) : i.toJson.IsReadable := by
  have htags : (Json.list (i.tags.map fun t => .ofNat t.toNat)).IsReadable := by simp
  have hattributes : (Json.object
      (i.attributes.entries.map fun e => (e.1, .list (e.2.map .text)))).IsReadable := by
    rw [IsReadable.object_iff, List.forall_mem_map]
    simp
  rw [toJson, IsReadable.object_iff]
  simp only [List.forall_mem_cons]
  exact ⟨.ofNat _, .text _, .bool _, htags, hattributes, .ofOption .text, by simp⟩

lemma LogEntry.isReadable_toJson (e : LogEntry) : e.toJson.IsReadable := by
  have hhash : (Json.ofOption (fun h => .text h.toHex) e.imageHash).IsReadable :=
    .ofOption fun h => .text h.toHex
  simp [toJson, IsReadable.ofOption IsReadable.text, hhash]

lemma Settings.isReadable_toJson (s : Settings) : s.toJson.IsReadable := by
  simp [toJson, RetrySettings.toJson, IsReadable.ofOption IsReadable.text]

/-! ### Texts -/

namespace Shape

variable {α : Type} {shape : Shape α} {j : Json} {a : α}

/-- A value is read from a text, with blanks after it, if it is from its JSON. -/
lemma read_of_readsAs {text blanks : Bytes} (h : shape maxDepth j = some a)
    (htext : ReadsAs text j) (hblanks : Blank blanks) : shape.read (text ++ blanks) = some a := by
  rw [read, htext.parse hblanks, Option.bind_eq_bind, Option.bind_some, h]

/-- A value is read back from both texts of its JSON. -/
def ReadsBack (shape : Shape α) (j : Json) (a : α) : Prop :=
  shape.read (Utf8.encode j.compact) = some a ∧ shape.read (Utf8.encode j.pretty) = some a

lemma readsBack (h : shape maxDepth j = some a) (hj : j.IsReadable) : shape.ReadsBack j a := by
  have hcompact := read_of_readsAs h hj.readsAs_compact blank_nil
  have hpretty := read_of_readsAs h (hj.readsAs_pretty 0) blank_nil
  rw [List.append_nil] at hcompact hpretty
  exact ⟨hcompact, hpretty⟩

end Shape

lemma Json.isReadable_list_map {α : Type} {toJson : α → Json} {l : List α}
    (h : ∀ a ∈ l, (toJson a).IsReadable) : (Json.list (l.map toJson)).IsReadable := by
  rwa [IsReadable.list_iff, List.forall_mem_map]

lemma ServiceTag.readsBack_list (tags : List ServiceTag) :
    (Shape.list shape).ReadsBack (.list (tags.map toJson)) tags :=
  Shape.readsBack (Shape.list_map fun t _ => t.shape_toJson)
    (isReadable_list_map fun t _ => t.isReadable_toJson)

lemma LogEntry.readsBack_list (entries : List LogEntry) :
    (Shape.list shape).ReadsBack (.list (entries.map toJson)) entries :=
  Shape.readsBack (Shape.list_map fun e _ => e.shape_toJson)
    (isReadable_list_map fun e _ => e.isReadable_toJson)

/-! ### Lists of tags on the command line -/

namespace CommandLine

/-- Listing the tags as JSON prints all tags of the service, whose names the client then knows. -/
lemma exists_tags_of_listTags {c c' : Client} {printed : Printed}
    (h : listTags true c = (.ok printed, c')) :
    ∃ tags, printed.output = [(Json.list (tags.map ServiceTag.toJson)).pretty] ∧
      c'.tags = dictionaryOfTags tags := by
  have hbind : listTags true c = ExceptT.bindCont
      (fun tags => (pure ⟨[(Json.list (tags.map ServiceTag.toJson)).pretty], []⟩ : Task Printed))
      (Task.doing "listing tags" Session.listTags c).1
      (Task.doing "listing tags" Session.listTags c).2 := rfl
  obtain ⟨_, _, net, -, -, -, ⟨e, hlist, -⟩ | ⟨tags, hlist, -⟩⟩ := Session.exists_listTags c
  · rw [hbind, Task.doing, Task.session, hlist] at h
    cases h
  · rw [hbind, Task.doing, Task.session, hlist] at h
    cases h
    exact ⟨tags, rfl, rfl⟩

/-- The names in a file with a printed list of tags are those of the list. -/
lemma loadDictionary_of_pretty {s : Surroundings} {path : String} {tags : List ServiceTag}
    (h : s.file path =
      some (Utf8.encode ((Json.list (tags.map ServiceTag.toJson)).pretty ++ "\n"))) :
    loadDictionary s path = .ok (dictionaryOfTags tags) := by
  have hbreak : Blank (Utf8.encode "\n") := blank_singleton rfl
  have hreadable := isReadable_list_map fun t (_ : t ∈ tags) => t.isReadable_toJson
  have hshape : Shape.list ServiceTag.shape Shape.maxDepth
      (.list (tags.map ServiceTag.toJson)) = some tags := Shape.list_map fun t _ => t.shape_toJson
  have hread := Shape.read_of_readsAs hshape (hreadable.readsAs_pretty 0) hbreak
  rw [← Utf8.encode_append] at hread
  rw [loadDictionary, h, textOfFile, Utf8.decode?_encode]
  dsimp only [Except.mapError, Except.bind, bind]
  rw [pretty, hread]
  rfl

end CommandLine

open CommandLine

/-- **What is written in JSON is read back.** So it is for searches whose JSON nests no deeper than
a reader follows, and for all tags, images, past changes and settings, from the compact text as from
the indented one. The names of tags that are loaded from a file with the printed list of tags are
those that the client collected from the same list. -/
theorem texts_read_back :
    (∀ q : SearchQuery, q.toJson.nesting ≤ 127 → SearchQuery.shape.ReadsBack q.toJson q) ∧
    (∀ t : ServiceTag, ServiceTag.shape.ReadsBack t.toJson t) ∧
    (∀ i : ServiceImage, ServiceImage.shape.ReadsBack i.toJson i) ∧
    (∀ e : LogEntry, LogEntry.shape.ReadsBack e.toJson e) ∧
    (∀ s : Settings, Settings.shape.ReadsBack s.toJson s) ∧
    ∀ (c c' : Client) (printed : Printed), CommandLine.listTags true c = (.ok printed, c') →
      ∀ (s : Surroundings) (path : String),
        s.file path = some (Utf8.encode (String.join (printed.output.map (· ++ "\n")))) →
        loadDictionary s path = .ok c'.tags := by
  refine ⟨fun q hq => ?_, fun t => ?_, fun i => ?_, fun e => ?_, fun s => ?_, ?_⟩
  · rw [SearchQuery.nesting_toJson] at hq
    exact Shape.readsBack (q.shape_toJson hq) q.isReadable_toJson
  · exact Shape.readsBack t.shape_toJson t.isReadable_toJson
  · exact Shape.readsBack i.shape_toJson i.isReadable_toJson
  · exact Shape.readsBack e.shape_toJson e.isReadable_toJson
  · exact Shape.readsBack s.shape_toJson s.isReadable_toJson
  · intro c c' printed h s path hfile
    obtain ⟨tags, houtput, htags⟩ := exists_tags_of_listTags h
    have htext : String.join (printed.output.map (· ++ "\n")) =
        (Json.list (tags.map ServiceTag.toJson)).pretty ++ "\n" := by
      rw [houtput, List.map_singleton, String.join, List.foldl_cons, List.foldl_nil,
        String.empty_append]
    rw [htext] at hfile
    rw [htags]
    exact loadDictionary_of_pretty hfile

end TagCatalog
