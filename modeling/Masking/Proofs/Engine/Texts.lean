import Masking.Proofs.Engine.Isolation
import Masking.Proofs.Json.Structures
import Masking.Proofs.TokenStore.Sessions

/-! Batches and their texts. A batch that has been read is canonical, masking keeps it so, and a
canonical batch without floats is read back from its text. -/

namespace Masking

open Store (Backend CallContext Event World execute)

namespace LogRecord

section Attributes

variable {name : String} {value : Json} {entry : String × Json}
  {entries members : List (String × Json)}

theorem insertAttribute_new (h : name ∉ entries.map Prod.fst) :
    insertAttribute name value entries = entries ++ [(name, value)] := by
  induction entries with
  | nil => rfl
  | cons head rest ih =>
      obtain ⟨other, old⟩ := head
      obtain ⟨hFirst, hRest⟩ := not_or.mp (mt List.mem_cons.mpr h)
      rw [insertAttribute, if_neg hFirst, ih hRest]
      rfl

theorem mem_of_mem_insertAttribute (h : entry ∈ insertAttribute name value entries) :
    entry = (name, value) ∨ entry ∈ entries := by
  induction entries with
  | nil => exact Or.inl (List.mem_singleton.mp h)
  | cons head rest ih =>
      rw [insertAttribute] at h
      split at h
      next same =>
        rcases List.mem_cons.mp h with hNew | hOld
        · exact Or.inl (same ▸ hNew)
        · exact Or.inr (List.mem_cons_of_mem _ hOld)
      next =>
        rcases List.mem_cons.mp h with rfl | hLater
        · exact Or.inr List.mem_cons_self
        · exact (ih hLater).imp_right (List.mem_cons_of_mem _)

theorem nodup_insertAttribute (h : (entries.map Prod.fst).Nodup) :
    ((insertAttribute name value entries).map Prod.fst).Nodup := by
  induction entries with
  | nil => exact List.pairwise_singleton _ _
  | cons head rest ih =>
      obtain ⟨other, old⟩ := head
      obtain ⟨hFirst, hRest⟩ := List.nodup_cons.mp h
      rw [insertAttribute]
      split
      next => exact List.nodup_cons.mpr ⟨hFirst, hRest⟩
      next hOther =>
        refine List.nodup_cons.mpr ⟨fun hSame => ?_, ih hRest⟩
        obtain ⟨entry, hAttribute, hName⟩ := List.mem_map.mp hSame
        rcases mem_of_mem_insertAttribute hAttribute with rfl | hOld
        · exact hOther hName
        · exact hFirst (List.mem_map.mpr ⟨entry, hOld, hName⟩)

theorem nodup_collectAttributes (members : List (String × Json)) :
    ((collectAttributes members).map Prod.fst).Nodup :=
  List.foldlRecOn (motive := fun entries => (entries.map Prod.fst).Nodup) members
    (fun entries member => insertAttribute member.1 member.2 entries) List.nodup_nil
    fun _ distinct _ _ => nodup_insertAttribute distinct

theorem mem_of_mem_collectAttributes (h : entry ∈ collectAttributes members) :
    entry ∈ members := by
  refine List.foldlRecOn (motive := fun collected => ∀ entry ∈ collected, entry ∈ members)
    members (fun entries member => insertAttribute member.1 member.2 entries)
    (fun _ h => absurd h List.not_mem_nil)
    (fun collected kept new hNew entry hAttribute => ?_) entry h
  rcases mem_of_mem_insertAttribute hAttribute with rfl | hOld
  · exact hNew
  · exact kept entry hOld

/-- Attributes whose names occur once stay as they are. -/
theorem collectAttributes_of_nodup (h : (members.map Prod.fst).Nodup) :
    collectAttributes members = members := by
  -- The names that have been seen so far are not among the rest.
  have hStep : ∀ rest collected : List (String × Json), ((collected ++ rest).map Prod.fst).Nodup →
      rest.foldl (fun entries member => insertAttribute member.1 member.2 entries) collected =
        collected ++ rest := by
    intro rest
    induction rest with
    | nil => exact fun collected _ => (List.append_nil collected).symm
    | cons member rest ih =>
        intro collected distinct
        have hNext := ih (collected ++ [member]) (by rwa [← List.append_cons])
        have hNew : member.1 ∉ collected.map Prod.fst := by
          rw [List.map_append, List.map_cons] at distinct
          exact fun hSame =>
            (List.nodup_append.mp distinct).2.2 _ hSame _ List.mem_cons_self rfl
        rw [List.foldl_cons, insertAttribute_new hNew, List.append_cons collected member rest]
        exact hNext
  exact hStep members [] h

end Attributes

/-- A record as it is read: each name occurs once, values are canonical, and no body is null. -/
structure Canonical (depth : Nat) (record : LogRecord) : Prop where
  distinct : (record.attributes.map Prod.fst).Nodup
  values : ∀ entry ∈ record.attributes, Json.Canonical depth entry.2
  body : ∀ value, record.body = some value → Json.Canonical (depth + 1) value ∧ value ≠ .null

/-- A record in which no number is a float. -/
structure FloatFree (record : LogRecord) : Prop where
  values : ∀ entry ∈ record.attributes, Json.FloatFree entry.2
  body : ∀ value, record.body = some value → Json.FloatFree value

instance (record : LogRecord) : Decidable record.FloatFree :=
  decidable_of_iff ((∀ entry ∈ record.attributes, Json.FloatFree entry.2) ∧
      ∀ value ∈ record.body, Json.FloatFree value)
    ⟨fun ⟨values, body⟩ => ⟨values, body⟩, fun ⟨values, body⟩ => ⟨values, body⟩⟩

variable {depth : Nat} {text rest : List Char} {record : LogRecord}

/-- The fields of a record as they have been read so far. -/
structure Draft.Canonical (depth : Nat) (draft : Draft) : Prop where
  values : ∀ attributes, draft.attributes = some attributes →
    ∀ entry ∈ attributes, Json.Canonical depth entry.2
  body : ∀ value, draft.body = some (some value) →
    Json.Canonical (depth + 1) value ∧ value ≠ .null

theorem canonical_of_read (h : read (depth + 2) text = .ok (record, rest)) :
    record.Canonical depth := by
  have hEmpty : Draft.Canonical depth ⟨none, none⟩ :=
    ⟨fun _ same => (by cases same), fun _ same => (by cases same)⟩
  obtain ⟨draft, canonical, hFinish⟩ := Json.exists_of_readStructure
    (P := Draft.Canonical depth) (by
      intro field member built text next rest canonical hRead
      rcases List.mem_cons.mp member with rfl | hLast
      · obtain ⟨members, hMap, rfl⟩ := Json.exists_of_readField hRead
        refine ⟨fun attributes same => ?_, canonical.body⟩
        cases same
        exact Json.forall_of_readMap Json.canonical_of_readValue hMap
      · cases List.mem_singleton.mp hLast
        obtain ⟨body, hOption, rfl⟩ := Json.exists_of_readField hRead
        refine ⟨canonical.values, fun value same => ?_⟩
        cases same
        exact Json.canonical_of_readOption hOption) hEmpty h
  cases hFinish
  refine ⟨nodup_collectAttributes _, fun entry member => ?_, fun value same => ?_⟩
  · have hMember := mem_of_mem_collectAttributes member
    cases hRead : draft.attributes with
    | none =>
        rw [hRead] at hMember
        cases hMember
    | some attributes =>
        rw [hRead] at hMember
        exact canonical.values attributes hRead entry hMember
  · refine canonical.body value ?_
    cases hRead : draft.body with
    | none =>
        rw [hRead] at same
        cases same
    | some body =>
        rw [hRead] at same
        exact congrArg some same

/-- A canonical record without floats is read back from its text. -/
theorem Canonical.reads (canonical : record.Canonical depth) (free : record.FloatFree) :
    Json.Reads read (depth + 2) (Json.render record.toJson) record := by
  have hMap : Json.Reads (Json.readMap Json.readValue) (depth + 1)
      (Json.render (.obj record.attributes)) record.attributes :=
    Json.reads_map fun entry member =>
      (canonical.values entry member).reads (free.values entry member)
  have hCollected := collectAttributes_of_nodup canonical.distinct
  obtain ⟨attributes, body⟩ := record
  cases body with
  | none =>
      refine Json.reads_structure
        (.known rfl rfl (Json.reads_field hMap _) .done) ?_
      exact congrArg (fun attributes => some (LogRecord.mk attributes none)) hCollected
  | some value =>
      obtain ⟨hCanonical, hNull⟩ := canonical.body value rfl
      have hFree := free.body value rfl
      have hBody : Json.Reads (Json.readOption Json.readValue) (depth + 1) (Json.render value)
          (some value) := (hCanonical.reads hFree).option hFree hNull
      refine Json.reads_structure
        (.known rfl rfl (Json.reads_field hMap _)
          (.known rfl rfl (Json.reads_field hBody _) .done)) ?_
      exact congrArg (fun attributes => some (LogRecord.mk attributes (some value))) hCollected

end LogRecord

namespace LogBatch

/-- A batch as it is read. -/
def Canonical (depth : Nat) (batch : LogBatch) : Prop :=
  ∀ record ∈ batch.records, record.Canonical depth

/-- A batch in which no number is a float. -/
def FloatFree (batch : LogBatch) : Prop :=
  ∀ record ∈ batch.records, record.FloatFree

instance (batch : LogBatch) : Decidable batch.FloatFree :=
  inferInstanceAs (Decidable (∀ record ∈ batch.records, record.FloatFree))

/-- The batch that a text denotes. -/
def parse (text : String) : Except Json.Fault LogBatch :=
  Json.readAll read text.toList

/-- The batch and its text lead to each other. -/
structure Stable (batch : LogBatch) : Prop where
  reads : parse batch.toJson.text = .ok batch
  writes : (parse batch.toJson.text).map (fun again => again.toJson.text) = .ok batch.toJson.text

variable {depth : Nat} {text rest : List Char} {batch : LogBatch}

theorem canonical_of_read (h : read (depth + 4) text = .ok (batch, rest)) :
    batch.Canonical depth := by
  have hEmpty : ∀ records : List LogRecord, none = some records →
      ∀ record ∈ records, record.Canonical depth := nofun
  obtain ⟨draft, canonical, hFinish⟩ := Json.exists_of_readStructure
    (P := fun draft : Option (List LogRecord) => ∀ records, draft = some records →
      ∀ record ∈ records, record.Canonical depth) (by
      intro field member built text next rest _ hRead
      cases List.mem_singleton.mp member
      obtain ⟨records, hList, rfl⟩ := Json.exists_of_readField hRead
      intro found same
      cases same
      exact Json.forall_of_readList LogRecord.canonical_of_read hList) hEmpty h
  cases hFinish
  cases draft with
  | none => exact fun _ member => absurd member List.not_mem_nil
  | some records => exact canonical records rfl

theorem canonical_of_parse {text : String} (h : parse text = .ok batch) :
    batch.Canonical (Json.maxDepth - 4) := by
  obtain ⟨rest, hRead⟩ := Json.exists_of_readAll h
  exact canonical_of_read hRead

/-- A canonical batch without floats is read from every object in which it is, whatever else there
is. -/
theorem Canonical.reads (canonical : batch.Canonical depth) (free : batch.FloatFree)
    {others : List (String × Json)}
    (other : ∀ member ∈ others, member.1 ≠ "records" ∧ Json.FloatFree member.2) :
    Json.Reads read (depth + 4)
      (Json.render (.obj (("records", .arr (batch.records.map LogRecord.toJson)) :: others)))
      batch := by
  have hRecords : Json.Reads (Json.readList LogRecord.read) (depth + 3)
      (Json.render (.arr (batch.records.map LogRecord.toJson))) batch.records :=
    Json.reads_list (fun _ _ => ⟨by decide, by decide, by decide⟩)
      fun record member => (canonical record member).reads (free record member)
  refine Json.reads_structure
    (.known rfl rfl (Json.reads_field hRecords _) (.others fun member hMember => ?_)) rfl
  obtain ⟨hName, hFree⟩ := other member hMember
  exact ⟨by simp [Json.field, hName.symm], hFree⟩

theorem Canonical.stable (canonical : batch.Canonical (Json.maxDepth - 4))
    (free : batch.FloatFree) : batch.Stable := by
  have hReads : parse batch.toJson.text = .ok batch := by
    rw [parse, Json.text, String.toList_ofList]
    exact (canonical.reads free fun _ member => absurd member List.not_mem_nil).readAll
  exact ⟨hReads, by rw [hReads]; rfl⟩

end LogBatch

namespace MaskingEngine

variable {σ : Type} {engine : MaskingEngine} {depth : Nat}

/-- After masking an attribute is one that was there before, or has a text for its value. -/
theorem AttributesMasked.kept_or_text {attributes : List (String × Json)}
    {calls : List (TokenCall σ)} {done : MaskedAttributes}
    (masked : engine.AttributesMasked attributes calls done) :
    ∀ entry ∈ done.attributes, entry ∈ attributes ∨ ∃ text, entry.2 = .str text := by
  induction masked with
  | nil => exact fun _ member => Or.inl member
  | unlisted _ _ ih =>
      exact List.forall_mem_cons.mpr ⟨Or.inl List.mem_cons_self,
        fun entry member => (ih entry member).imp_left (List.mem_cons_of_mem _)⟩
  | masked _ _ _ _ ih =>
      exact List.forall_mem_cons.mpr ⟨Or.inr ⟨_, rfl⟩,
        fun entry member => (ih entry member).imp_left (List.mem_cons_of_mem _)⟩
  | kept _ _ _ _ ih =>
      exact List.forall_mem_cons.mpr ⟨Or.inl List.mem_cons_self,
        fun entry member => (ih entry member).imp_left (List.mem_cons_of_mem _)⟩

/-- After masking a body is what it was before, or a text. -/
theorem BodyMasked.same_or_text {body : Option Json} {calls : List (TokenCall σ)}
    {done : Option Json × Bool} (masked : engine.BodyMasked body calls done) :
    done.1 = body ∨ ∃ text, done.1 = some (.str text) := by
  cases masked with
  | text => exact Or.inr ⟨_, rfl⟩
  | other => exact Or.inl rfl

variable {record out : LogRecord} {run : RecordRun σ}

theorem RecordMasked.canonical (masked : engine.RecordMasked record run out)
    (canonical : record.Canonical depth) : out.Canonical depth where
  distinct := by
    rw [masked.attributes.names]
    exact canonical.distinct
  values entry member := by
    rcases masked.attributes.kept_or_text entry member with hKept | ⟨text, hText⟩
    · exact canonical.values entry hKept
    · rw [hText]
      exact .str
  body value same := by
    rcases masked.body.same_or_text with hKept | ⟨text, hText⟩
    · exact canonical.body value (hKept.symm.trans same)
    · cases hText.symm.trans same
      exact ⟨.str, nofun⟩

theorem RecordMasked.floatFree (masked : engine.RecordMasked record run out)
    (free : record.FloatFree) : out.FloatFree where
  values entry member := by
    rcases masked.attributes.kept_or_text entry member with hKept | ⟨text, hText⟩
    · exact free.values entry hKept
    · rw [hText]
      exact .str
  body value same := by
    rcases masked.body.same_or_text with hKept | ⟨text, hText⟩
    · exact free.body value (hKept.symm.trans same)
    · cases hText.symm.trans same
      exact .str

/-- What masking keeps of every record it keeps of all of them. -/
theorem RecordsMasked.forall_of_forall {P : LogRecord → Prop}
    (each : ∀ {record run out}, engine.RecordMasked (σ := σ) record run out → P record → P out)
    {records outs : List LogRecord} {runs : List (RecordRun σ)}
    (masked : engine.RecordsMasked records runs outs) (h : ∀ record ∈ records, P record) :
    ∀ out ∈ outs, P out := by
  induction masked with
  | nil => exact h
  | cons first _ ih =>
      obtain ⟨hFirst, hLater⟩ := List.forall_mem_cons.mp h
      exact List.forall_mem_cons.mpr ⟨each first hFirst, ih hLater⟩

/-- A masked batch is canonical, and without floats, as the batch was, whatever the store did. -/
theorem processBatch_canonical {backend : Backend σ} {context : CallContext} {batch out : LogBatch}
    {summary : BatchSummary} {world after : World σ} {events : List Event}
    (executed : execute backend context (engine.processBatch batch) world =
      some ((out, summary), events, after))
    (canonical : batch.Canonical depth) (free : batch.FloatFree) :
    out.Canonical depth ∧ out.FloatFree := by
  obtain ⟨_, _, _, hEnds⟩ := Store.Program.exists_performs executed
  obtain ⟨done, told, last, calls, hRun, _, _, runs, _, _, hRecords⟩ :=
    engine.yields_processBatch batch world (hEnds.mono fun _ _ => trivial)
  cases executed.symm.trans hRun
  exact ⟨hRecords.forall_of_forall RecordMasked.canonical canonical,
    hRecords.forall_of_forall RecordMasked.floatFree free⟩

end MaskingEngine

end Masking
