import Masking.Proofs.Http.Outcomes
import Masking.Proofs.Json.Strings
import Masking.Proofs.Text.Digits
import Masking.Proofs.Text.Percent

/-! Requests as they are spelled. The body with one attribute is read as the batch it says, and the
target of a reverse lookup leads to the lookup it names, whatever characters there are in names,
categories and tokens. -/

namespace Masking

namespace Http

section Targets

/-- The address of the lookup of a token in a category. -/
def unmaskTarget (category masked : String) : String :=
  "/v1/unmask/" ++ Text.percentEncode category ++ "/" ++ Text.percentEncode masked

theorem percentEncode_plain (text : String) : ∀ c ∈ (Text.percentEncode text).toList,
    Text.IsPlain c := by
  rw [Text.percentEncode, String.toList_ofList]
  exact Text.percentBytes_plain _

theorem slash_not_mem_percentEncode (text : String) : '/' ∉ (Text.percentEncode text).toList :=
  fun member => (percentEncode_plain text _ member).apart.1 rfl

theorem percentEncode_ne_empty {text : String} (h : text ≠ "") : Text.percentEncode text ≠ "" := by
  intro hEmpty
  have hChars := congrArg String.toList hEmpty
  rw [Text.percentEncode, String.toList_ofList] at hChars
  refine Text.percentBytes_ne_nil (fun hBytes => h ?_) hChars
  have hText := Text.fromUtf8_utf8 text
  rw [hBytes] at hText
  exact (Option.some.inj hText).symm

theorem beforeQuery_eq {text : List Char} (h : ∀ c ∈ text, c ≠ '?' ∧ c ≠ '#') :
    beforeQuery text = text := by
  induction text with
  | nil => rfl
  | cons c rest ih =>
      obtain ⟨⟨hQuery, hFragment⟩, hRest⟩ := List.forall_mem_cons.mp h
      rw [beforeQuery, if_neg (not_or.mpr ⟨hQuery, hFragment⟩), ih hRest]

theorem unmaskTarget_toList (category masked : String) :
    (unmaskTarget category masked).toList =
      '/' :: ("v1".toList ++ '/' :: ("unmask".toList ++ '/' ::
        ((Text.percentEncode category).toList ++ '/' :: (Text.percentEncode masked).toList))) := by
  simp [unmaskTarget]

/-- The whole address is its path. -/
theorem path_unmaskTarget {request : Request} {category masked : String}
    (target : request.target = unmaskTarget category masked) :
    request.path = unmaskTarget category masked := by
  have hPlain : ∀ text, ∀ c ∈ (Text.percentEncode text).toList, c ≠ '?' ∧ c ≠ '#' :=
    fun text c member => (percentEncode_plain text c member).apart.2
  have hChars : ∀ c ∈ "v1".toList ++ '/' :: ("unmask".toList ++ '/' ::
      ((Text.percentEncode category).toList ++ '/' :: (Text.percentEncode masked).toList)),
        c ≠ '?' ∧ c ≠ '#' := by
    simp only [List.forall_mem_append, List.forall_mem_cons]
    exact ⟨by simp, by decide, by simp, by decide, hPlain _, by decide, hPlain _⟩
  rw [← String.toList_inj, Request.path, target, unmaskTarget_toList, String.toList_ofList, pathOf,
    beforeQuery_eq hChars]

theorem findRoute_unmaskTarget {category masked : String} (hCategory : category ≠ "")
    (hMasked : masked ≠ "") :
    findRoute (unmaskTarget category masked) =
      some (.unmask (Text.percentEncode category) (Text.percentEncode masked)) := by
  have hParts : Text.splitOn '/' (unmaskTarget category masked).toList =
      [[], "v1".toList, "unmask".toList, (Text.percentEncode category).toList,
        (Text.percentEncode masked).toList] := by
    rw [unmaskTarget_toList, ← List.nil_append ('/' :: _), Text.splitOn_append List.not_mem_nil,
      Text.splitOn_append (by decide), Text.splitOn_append (by decide),
      Text.splitOn_append (slash_not_mem_percentEncode category),
      Text.splitOn_single (slash_not_mem_percentEncode masked)]
  rw [findRoute, hParts]
  simp [String.ofList_toList, percentEncode_ne_empty hCategory, percentEncode_ne_empty hMasked]

/-- The address of a lookup leads to it. -/
theorem asksUnmask_of_target {request : Request} {category masked : String}
    (reads : request.method = "GET") (target : request.target = unmaskTarget category masked)
    (hCategory : category ≠ "") (hMasked : masked ≠ "") : request.AsksUnmask category masked := by
  refine ⟨reads, _, _, ?_, decodePart_eq (Text.percentDecode_percentEncode category),
    decodePart_eq (Text.percentDecode_percentEncode masked)⟩
  rw [path_unmaskTarget target, findRoute_unmaskTarget hCategory hMasked]

end Targets

section Bodies

/-- A batch with one record, which has one attribute and no body. -/
def attributeBatch (name : String) (value : Json) : LogBatch :=
  ⟨[⟨[(name, value)], none⟩]⟩

/-- The text of such a batch, in which the value is spelled in some way. -/
def attributeBody (name : String) (spelling : List Char) : List Char :=
  Json.objectOf "records" (Json.arrayOf (Json.objectOf "attributes" (Json.objectOf name spelling)))

/-- How deep containers may go in the value of an attribute. -/
def valueDepth : Nat := Json.maxDepth - 4

theorem read_attributeBody {name : String} {spelling : List Char} {value : Json}
    (spells : Json.Spells valueDepth spelling value) :
    Json.readAll LogBatch.read (attributeBody name spelling) = .ok (attributeBatch name value) := by
  -- From the inside out: each container leaves one level less for what is in it.
  have hMember : ∀ rest, Json.readMap Json.readValue (valueDepth + 1)
      (Json.objectOf name spelling ++ rest) = .ok ([(name, value)], rest) :=
    fun rest => Json.readMap_objectOf (spells rest)
  have hRecord : ∀ rest, LogRecord.read (valueDepth + 2)
      (Json.objectOf "attributes" (Json.objectOf name spelling) ++ rest) =
        .ok (⟨[(name, value)], none⟩, rest) :=
    fun rest => Json.readStructure_objectOf rfl rfl (Json.read_field (hMember _)) rfl
  have hRecords : ∀ rest, Json.readList LogRecord.read (valueDepth + 3)
      (Json.arrayOf (Json.objectOf "attributes" (Json.objectOf name spelling)) ++ rest) =
        .ok ([⟨[(name, value)], none⟩], rest) :=
    fun rest => Json.readList_arrayOf ⟨_, rfl⟩ (hRecord _)
  have hBatch : LogBatch.read (valueDepth + 4) (attributeBody name spelling ++ []) =
      .ok (attributeBatch name value, []) :=
    Json.readStructure_objectOf rfl rfl (Json.read_field (hRecords _)) rfl
  rw [List.append_nil] at hBatch
  rw [Json.readAll, show Json.maxDepth = valueDepth + 4 from rfl, hBatch]
  rfl

/-- A batch with one attribute is read from its text, whatever characters the name has and however
the value is spelled. -/
theorem readBatch_attributeBody {request : Request} {name : String} {spelling : List Char}
    {value : Json} (spells : Json.Spells valueDepth spelling value)
    (typed : (request.headers.find "content-type").any namesJson = true)
    (short : request.body.utf8ByteSize ≤ maxBodySize)
    (body : request.body.toList = attributeBody name spelling) :
    readBatch request = .ok (attributeBatch name value) := by
  rw [readBatch, if_pos typed, if_neg (Nat.not_lt.mpr short), body, read_attributeBody spells]

end Bodies

end Http

end Masking
