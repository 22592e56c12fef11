import Converge.Json.Schema
import Converge.Proofs.Json.Reading
import Converge.Proofs.TagSets
import Converge.Proofs.Timestamps

/-! What a codec writes it reads. A record is read back if its fields are, one after the other: the
order of an object does not matter, and its names keep the fields apart. -/
namespace Converge.Json

theorem Items.isPlain_ofList {values : List Document} (each : ∀ value ∈ values, value.IsPlain) :
    (ofList values).IsPlain := by
  induction values with
  | nil => trivial
  | cons value rest ih =>
    obtain ⟨first, others⟩ := List.forall_mem_cons.1 each
    exact ⟨first, ih others⟩

theorem Members.isPlain_ofList {members : List (String × Document)}
    (each : ∀ member ∈ members, member.2.IsPlain) : (ofList members).IsPlain := by
  induction members with
  | nil => trivial
  | cons member rest ih =>
    obtain ⟨first, others⟩ := List.forall_mem_cons.1 each
    exact ⟨first, ih others⟩

theorem Document.asOption_of_isPlain {α : Type} (decode : Document → Decoded α)
    {document : Document} (plain : document.IsPlain) (present : document ≠ .null) :
    document.asOption decode = (decode document).map some := by
  cases document with
  | null => exact absurd rfl present
  | spoilt => exact plain.elim
  | _ => rfl

theorem lookup_of_mem {α : Type} {variants : List (String × α)}
    (distinct : (variants.map Prod.fst).Nodup) {entry : String × α} (member : entry ∈ variants) :
    variants.lookup entry.1 = some entry.2 := by
  induction variants with
  | nil => cases member
  | cons first rest ih =>
    obtain ⟨fresh, distinct⟩ := List.nodup_cons.1 distinct
    rcases List.mem_cons.1 member with rfl | later
    · exact List.lookup_cons_self
    · have apart : entry.1 ≠ first.1 := fun same => fresh (same ▸ List.mem_map_of_mem later)
      rw [List.lookup_cons, beq_false_of_ne apart]
      exact ih distinct later

namespace Codec

variable {α : Type}

structure Keeps (codec : Codec α) (value : α) : Prop where
  kept : codec.read (codec.write value) = .ok value
  plain : (codec.write value).IsPlain
  present : codec.write value ≠ .null

namespace Keeps

variable {codec : Codec α}

theorem string (value : String) : Codec.string.Keeps value := ⟨rfl, trivial, nofun⟩

theorem bool (value : Bool) : Codec.bool.Keeps value := ⟨rfl, trivial, nofun⟩

theorem natural {limit value : Nat} {expected : String} (bounded : value < limit)
    (small : limit ≤ Literal.largest) : (Codec.natural limit expected).Keeps value where
  kept := if_pos ⟨Int.natCast_nonneg value, Int.ofNat_lt.2 bounded⟩
  plain := ⟨Int.natCast_nonneg value, Int.ofNat_le.2 (Nat.le_trans (Nat.le_of_lt bounded) small)⟩
  present := nofun

theorem time (instant : Timestamp) : Codec.time.Keeps instant where
  kept := by
    simp only [Codec.time, Document.asTime, Timestamp.read_text]
    rfl
  plain := trivial
  present := nofun

theorem decodeAll_items {values : List α} (each : ∀ value ∈ values, codec.Keeps value) :
    (Items.ofList (values.map codec.write)).decodeAll codec.read = .ok values := by
  induction values with
  | nil => rfl
  | cons value rest ih =>
    obtain ⟨first, others⟩ := List.forall_mem_cons.1 each
    rw [List.map_cons, Items.ofList, Items.decodeAll, first.kept, ih others]
    rfl

theorem list {values : List α} (each : ∀ value ∈ values, codec.Keeps value) :
    codec.list.Keeps values where
  kept := decodeAll_items each
  plain := Items.isPlain_ofList
    (List.forall_mem_map.2 fun value member => (each value member).plain)
  present := nofun

theorem decodeAll_members {entries : List (String × α)}
    (each : ∀ entry ∈ entries, codec.Keeps entry.2) :
    (Members.ofList (entries.map fun entry => (entry.1, codec.write entry.2))).decodeAll codec.read =
      .ok entries := by
  induction entries with
  | nil => rfl
  | cons entry rest ih =>
    obtain ⟨first, others⟩ := List.forall_mem_cons.1 each
    rw [List.map_cons, Members.ofList, Members.decodeAll, first.kept, ih others]
    rfl

theorem nameMap {map : NameMap α} (each : ∀ entry ∈ map.entries, codec.Keeps entry.2) :
    codec.nameMap.Keeps map where
  kept := by
    show (Members.decodeAll _ _).map NameMap.ofList = _
    rw [decodeAll_members each]
    exact congrArg Except.ok (NameMap.ofList_entries map)
  plain := Members.isPlain_ofList
    (List.forall_mem_map.2 fun entry member => (each entry member).plain)
  present := nofun

theorem variant [DecidableEq α] {variants : List (String × α)} {value : α}
    (distinct : (variants.map Prod.fst).Nodup) (named : value ∈ variants.map Prod.snd) :
    (Codec.variant variants).Keeps value := by
  obtain ⟨entry, found⟩ :
      ∃ entry, variants.find? (fun entry => entry.2 = value) = some entry := by
    obtain ⟨entry, member, same⟩ := List.mem_map.1 named
    exact Option.isSome_iff_exists.1 (List.find?_isSome.2 ⟨entry, member, decide_eq_true same⟩)
  have same : entry.2 = value := by simpa using List.find?_some found
  have chosen := lookup_of_mem distinct (List.mem_of_find?_eq_some found)
  have written : (Codec.variant variants).write value = .string entry.1 := by
    simp only [Codec.variant, found]
  constructor
  case kept =>
    rw [written]
    simp only [Codec.variant, Document.asVariant, Document.choose, chosen, same]
  case plain =>
    rw [written]
    trivial
  case present =>
    rw [written]
    exact Document.noConfusion

theorem via {β : Type} {wrap : α → β} {unwrap : β → α} {value : β}
    (keeps : codec.Keeps (unwrap value)) (same : wrap (unwrap value) = value) :
    (codec.via wrap unwrap).Keeps value where
  kept := by
    show (codec.read (codec.write (unwrap value))).map wrap = _
    rw [keeps.kept]
    exact congrArg Except.ok same
  plain := keeps.plain
  present := keeps.present

end Keeps

theorem read_write_option {codec : Codec α} {value : Option α}
    (each : ∀ inner ∈ value, codec.Keeps inner) :
    codec.option.read (codec.option.write value) = .ok value := by
  cases value with
  | none => rfl
  | some inner =>
    have keeps := each inner rfl
    refine (Document.asOption_of_isPlain _ keeps.plain keeps.present).trans ?_
    rw [keeps.kept]
    rfl

theorem isPlain_write_option {codec : Codec α} {value : Option α}
    (each : ∀ inner ∈ value, codec.Keeps inner) : (codec.option.write value).IsPlain := by
  cases value with
  | none => trivial
  | some inner => exact (each inner rfl).plain

end Codec

section Records

variable {σ : Type} {record : σ}

/-- Fields of a record that are read from what they were written as, one after the other, turn what
has been found before into the record. -/
inductive Rebuilds (record : σ) : List (Field σ) → σ → Prop
  | done : Rebuilds record [] record
  | present {field : Field σ} {fields : List (Field σ)} {document : Document} {found next : σ} :
    field.write record = some document → document.IsPlain →
      field.read document found = .ok next → Rebuilds record fields next →
      Rebuilds record (field :: fields) found
  | absent {field : Field σ} {fields : List (Field σ)} {found : σ} :
    field.write record = none → field.isRequired = false → Rebuilds record fields found →
      Rebuilds record (field :: fields) found

namespace Rebuilds

variable {α : Type} {codec : Codec α} {name : String} {fields : List (Field σ)} {found : σ}

section Values

variable {get : σ → α} {set : α → σ → σ}

theorem required (keeps : codec.Keeps (get record))
    (rest : Rebuilds record fields (set (get record) found)) :
    Rebuilds record (.required name codec get set :: fields) found :=
  .present rfl keeps.plain (congrArg (Except.map _) keeps.kept) rest

theorem defaulted (keeps : codec.Keeps (get record))
    (rest : Rebuilds record fields (set (get record) found)) :
    Rebuilds record (.defaulted name codec get set :: fields) found :=
  .present rfl keeps.plain (congrArg (Except.map _) keeps.kept) rest

end Values

section Options

variable {get : σ → Option α} {set : Option α → σ → σ}

theorem nullable (each : ∀ value ∈ get record, codec.Keeps value)
    (rest : Rebuilds record fields (set (get record) found)) :
    Rebuilds record (.nullable name codec get set :: fields) found :=
  .present rfl (Codec.isPlain_write_option each)
    (congrArg (Except.map _) (Codec.read_write_option each)) rest

theorem optional (each : ∀ value ∈ get record, codec.Keeps value) (unset : set none found = found)
    (rest : Rebuilds record fields (set (get record) found)) :
    Rebuilds record (.optional name codec get set :: fields) found := by
  cases value : get record with
  | none =>
    rw [value, unset] at rest
    exact .absent (congrArg (Option.map _) value) rfl rest
  | some inner =>
    have keeps := each inner value
    have read := Codec.read_write_option each
    rw [value] at read rest
    exact .present (congrArg (Option.map _) value) keeps.plain (congrArg (Except.map _) read) rest

end Options

end Rebuilds

def written (record : σ) (fields : List (Field σ)) : List (String × Document) :=
  fields.filterMap fun field =>
    (field.write record).map fun document => (field.name, document)

theorem written_of_some {field : Field σ} {document : Document}
    (text : field.write record = some document) (fields : List (Field σ)) :
    written record (field :: fields) = (field.name, document) :: written record fields :=
  List.filterMap_cons_some (by rw [text]; rfl)

theorem written_of_none {field : Field σ} (nothing : field.write record = none)
    (fields : List (Field σ)) : written record (field :: fields) = written record fields :=
  List.filterMap_cons_none (by rw [nothing]; rfl)

theorem Rebuilds.isPlain {fields : List (Field σ)} {found : σ}
    (rebuilds : Rebuilds record fields found) :
    ∀ member ∈ written record fields, member.2.IsPlain := by
  induction rebuilds with
  | done => exact nofun
  | present text plain _ _ ih =>
    rw [written_of_some text]
    exact List.forall_mem_cons.2 ⟨plain, ih⟩
  | absent nothing _ _ ih =>
    rw [written_of_none nothing]
    exact ih

theorem find?_name {fields : List (Field σ)} (distinct : (fields.map Field.name).Nodup)
    {field : Field σ} (member : field ∈ fields) :
    fields.find? (fun other => other.name = field.name) = some field := by
  induction fields with
  | nil => cases member
  | cons first rest ih =>
    obtain ⟨fresh, distinct⟩ := List.nodup_cons.1 distinct
    rcases List.mem_cons.1 member with rfl | later
    · exact List.find?_cons_of_pos (decide_eq_true rfl)
    · have apart : first.name ≠ field.name := fun same =>
        fresh (same ▸ List.mem_map_of_mem later)
      rw [List.find?_cons_of_neg (by simpa using apart), ih distinct later]

namespace Schema

variable {schema : Schema σ} {field : Field σ} {fields : List (Field σ)} {seen : List String}

/-- Some fields are still to come, and names have been seen. All that an object must have is either
still to come or has been seen. -/
structure Pending (schema : Schema σ) (fields : List (Field σ)) (seen : List String) : Prop where
  listed : ∀ field ∈ fields, field ∈ schema.fields
  distinct : (fields.map Field.name).Nodup
  fresh : ∀ field ∈ fields, field.name ∉ seen
  past : ∀ field ∈ schema.fields, field.isRequired = true → field ∈ fields ∨ field.name ∈ seen

namespace Pending

theorem start (distinct : (schema.fields.map Field.name).Nodup) :
    schema.Pending schema.fields [] where
  listed _ listed := listed
  distinct := distinct
  fresh _ _ := List.not_mem_nil
  past _ listed _ := .inl listed

theorem read (pending : schema.Pending (field :: fields) seen) :
    schema.Pending fields (field.name :: seen) where
  listed other later := pending.listed other (List.mem_cons_of_mem _ later)
  distinct := (List.nodup_cons.1 pending.distinct).2
  fresh other later := by
    have apart : other.name ≠ field.name := fun same =>
      (List.nodup_cons.1 pending.distinct).1 (same ▸ List.mem_map_of_mem later)
    rw [List.mem_cons, not_or]
    exact ⟨apart, pending.fresh other (List.mem_cons_of_mem _ later)⟩
  past other listed required := by
    rcases pending.past other listed required with ahead | again
    · rcases List.mem_cons.1 ahead with rfl | later
      · exact .inr List.mem_cons_self
      · exact .inl later
    · exact .inr (List.mem_cons_of_mem _ again)

theorem leave (pending : schema.Pending (field :: fields) seen)
    (optional : field.isRequired = false) : schema.Pending fields seen where
  listed other later := pending.listed other (List.mem_cons_of_mem _ later)
  distinct := (List.nodup_cons.1 pending.distinct).2
  fresh other later := pending.fresh other (List.mem_cons_of_mem _ later)
  past other listed required := by
    rcases pending.past other listed required with ahead | again
    · rcases List.mem_cons.1 ahead with rfl | later
      · rw [optional] at required
        cases required
      · exact .inl later
    · exact .inr again

theorem complete (pending : schema.Pending [] seen) :
    schema.fields.find? (fun field => field.isRequired && field.name ∉ seen) = none := by
  refine List.find?_eq_none.2 fun field listed missing => ?_
  simp only [Bool.and_eq_true, decide_eq_true_eq] at missing
  rcases pending.past field listed missing.1 with ahead | again
  · cases ahead
  · exact missing.2 again

end Pending

theorem readMembers_written (distinct : (schema.fields.map Field.name).Nodup) {found : σ}
    (rebuilds : Rebuilds record fields found) (pending : schema.Pending fields seen) :
    schema.readMembers seen found (Members.ofList (written record fields)) = .ok record := by
  -- The induction is on the fields that are still to come.
  induction rebuilds generalizing seen with
  | done =>
    simp only [written, List.filterMap_nil, Members.ofList, Schema.readMembers, pending.complete]
  | present text plain read rest ih =>
    have known := find?_name distinct (pending.listed _ List.mem_cons_self)
    have fresh := pending.fresh _ List.mem_cons_self
    rw [written_of_some text, Members.ofList, Schema.readMembers]
    simp only [Members.name, bind, Except.bind, known, if_neg fresh, read]
    exact ih pending.read
  | absent nothing optional rest ih =>
    rw [written_of_none nothing]
    exact ih (pending.leave optional)

theorem keeps (distinct : (schema.fields.map Field.name).Nodup)
    (rebuilds : Rebuilds record schema.fields schema.blank) : schema.codec.Keeps record where
  kept := readMembers_written distinct rebuilds (.start distinct)
  plain := Members.isPlain_ofList rebuilds.isPlain
  present := nofun

end Schema

end Records

end Converge.Json
