import Masking.Proofs.Engine.Texts
import Masking.Proofs.Http.Outcomes

/-! Batches on their way through the service. What is answered about a batch is the text of what the
engine has made of it, and it is read back as that. -/

namespace Masking

open Store (Backend CallContext Event Responds Tokens World execute)

theorem BatchSummary.floatFree_toJson (summary : BatchSummary) : summary.toJson.FloatFree :=
  .obj fun member hMember => by
    rcases List.mem_cons.mp hMember with rfl | hMember
    · exact .int
    rcases List.mem_cons.mp hMember with rfl | hMember
    · exact .int
    rcases List.mem_cons.mp hMember with rfl | hMember
    · exact .int
    cases List.mem_singleton.mp hMember
    exact .int

namespace Http

/-- The text about a batch is read as the batch; its totals are passed over. -/
theorem parse_batchText {batch : LogBatch} (canonical : batch.Canonical (Json.maxDepth - 4))
    (free : batch.FloatFree) (summary : BatchSummary) :
    LogBatch.parse (batchText batch summary) = .ok batch := by
  have hOther : ∀ member ∈ [("summary", summary.toJson)],
      member.1 ≠ "records" ∧ Json.FloatFree member.2 :=
    List.forall_mem_singleton.mpr
      ⟨show "summary" ≠ "records" by decide, summary.floatFree_toJson⟩
  rw [← maskAnswer_body, LogBatch.parse, maskAnswer, Response.json, Json.text,
    String.toList_ofList]
  exact (canonical.reads free hOther).readAll

/-- The batch is read back from its own text, before masking and after it, whatever the store does;
and a request to mask it is answered with a text that is read as the masked batch. -/
structure RoundTrips (batch : LogBatch) : Prop where
  stable : batch.Stable
  ends : ∀ {σ : Type} (engine : MaskingEngine) (backend : Backend σ) (context : CallContext)
    (world : World σ), Responds backend context →
      ∃ done, execute backend context (engine.processBatch batch) world = some done
  masked : ∀ {σ : Type} (engine : MaskingEngine) (backend : Backend σ) (context : CallContext)
    (world after : World σ) (out : LogBatch) (summary : BatchSummary) (events : List Event),
      execute backend context (engine.processBatch batch) world =
        some ((out, summary), events, after) → out.Stable
  answered : ∀ {σ : Type} (service : Service) (backend : Backend σ) (entropy : Nat)
    (request : Request) (live : Live σ) (context : CallContext) (tokens : Tokens),
      request.AsksMask → readBatch request = .ok batch → service.Opens live context tokens →
        ∃ out summary events response lines last after,
          execute backend context (service.engine.processBatch batch) (live.start tokens) =
              some ((out, summary), events, after) ∧
            service.respond backend entropy request live = some (response, lines, last) ∧
            response.status = 200 ∧ LogBatch.parse response.body = .ok out

/-- Every text of a batch without floats, however it is written, is of a batch that is read back
from its own text. An integer of more than 64 bits counts as a float here, as it is read as one. -/
theorem batch_roundTrips {text : String} {batch : LogBatch}
    (read : LogBatch.parse text = .ok batch) (free : batch.FloatFree) : RoundTrips batch where
  stable := (LogBatch.canonical_of_parse read).stable free
  ends engine backend context world responds := by
    have hEnds := responds.ends (engine.processBatch_entriesOnly batch) world
    obtain ⟨result, events, after, hRun⟩ := hEnds.exists_result
    exact ⟨_, hRun⟩
  masked engine backend context world after out summary events executed := by
    obtain ⟨canonical, outFree⟩ :=
      MaskingEngine.processBatch_canonical executed (LogBatch.canonical_of_parse read) free
    exact canonical.stable outFree
  answered service backend entropy request live context tokens asks accepted made := by
    obtain ⟨out, summary, events, calls, after, hRun, hAnswers, _⟩ :=
      @Service.mask_answers _ _ backend entropy _ _ _ _ _ asks accepted made
    obtain ⟨response, lines, recorder, hRespond, _, hStatus, hBody⟩ := hAnswers
    obtain ⟨canonical, outFree⟩ :=
      MaskingEngine.processBatch_canonical hRun (LogBatch.canonical_of_parse read) free
    refine ⟨out, summary, events, response, lines, _, after, hRun, hRespond, hStatus, ?_⟩
    rw [hBody]
    exact parse_batchText canonical outFree summary

/-- A name that comes twice, names out of order, a body that is null, a record written as an array,
and fields that are missing or unknown. -/
def untidyText : String :=
  "\x7b\"records\":[\x7b\"body\":null, \"attributes\":\x7b\"b\":0,"
    ++ "\"a\":[-7,\x7b\"y\":2,\"x\":[]\x7d],\"b\":\"\\u00e9\"\x7d\x7d,[]],\"more\":\x7b\x7d\x7d"

def tidyText : String :=
  "\x7b\"records\":[\x7b\"attributes\":\x7b\"b\":\"é\","
    ++ "\"a\":[-7,\x7b\"x\":[],\"y\":2\x7d]\x7d\x7d,\x7b\"attributes\":\x7b\x7d\x7d]\x7d"

theorem batch_roundTrips_untidy :
    ∃ batch, LogBatch.parse untidyText = .ok batch ∧ batch.FloatFree ∧
      batch.toJson.text = tidyText ∧ RoundTrips batch := by
  have hTidy : ((LogBatch.parse untidyText).toOption.any fun batch =>
      decide (batch.FloatFree ∧ batch.toJson.text = tidyText)) = true := by
    decide +kernel
  cases hRead : LogBatch.parse untidyText with
  | error fault =>
      rw [hRead] at hTidy
      cases hTidy
  | ok batch =>
      rw [hRead] at hTidy
      obtain ⟨free, hText⟩ := of_decide_eq_true hTidy
      exact ⟨batch, rfl, free, hText, batch_roundTrips hRead free⟩

end Http

end Masking
