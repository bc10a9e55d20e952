import CriticalCss.Fetch.Basic
import Mathlib.Tactic.NormNum

/-!
# The size limit of a fetch

A fetch reads the body of a response up to one byte more than its size limit, so that a body
over the limit shows itself by its length. The count of bytes to read is the limit plus one in
64-bit signed arithmetic. Below the largest 64-bit number the count is exact, and the size
check then refuses exactly the bodies longer than the limit and reads every other body whole
(`Fetcher.receive_size_limit`).

At the largest number, which the configuration admits, the addition wraps to the smallest one,
a count that reads nothing: every body is read as no bytes at all, and a stylesheet of any size
arrives as the empty text (`Fetcher.receive_largest_limit`, `receive_largest_limit_empty`).

## Main results

* `readLimit_of_nonneg`, `readLimit_largest`: the count of bytes read, below and at the largest
  limit.
* `Fetcher.receive_size_limit`: the size check is exact below the largest limit.
* `Fetcher.receive_largest_limit`: at the largest limit every body reads as no bytes.
-/

namespace CriticalCss.Fetch

open CriticalCss.Content

/-- Below the largest 64-bit limit, one byte more than the limit is read. -/
theorem readLimit_of_nonneg {m : Int} (h0 : 0 ≤ m) (h : m < 2 ^ 63 - 1) :
    readLimit m = m.toNat + 1 := by
  unfold readLimit
  rw [Int.bmod_eq_of_le (by norm_num; omega) (by norm_num; omega)]
  omega

/-- At the largest 64-bit limit the count wraps, and nothing is read. -/
theorem readLimit_largest : readLimit (2 ^ 63 - 1) = 0 := by
  decide

/-- A binary signature is never reported as an oversized body. -/
theorem binary_message_ne_tooLarge (media : String) (m : Int) :
    "binary content (" ++ media ++ ") instead of stylesheet" ≠
      "stylesheet is larger than " ++ toString m ++ " bytes" := by
  intro h
  have hfirst := congrArg (fun s => s.toList.head?) h
  simp at hfirst

section Body

variable (config : FetchConfig) (body : List UInt8) (contentType : String)

/-- A body longer than a limit below the largest is refused as too large. -/
theorem readSheet_of_lt (hmax : config.maxSize < 2 ^ 63 - 1) (h : config.maxSize < body.length) :
    readSheet config body contentType =
      .error (.plain ("stylesheet is larger than " ++ toString config.maxSize ++ " bytes")) := by
  have hread : config.maxSize < ((body.take (readLimit config.maxSize)).length : Int) := by
    rcases lt_or_ge config.maxSize 0 with hneg | hnn
    · omega
    · rw [readLimit_of_nonneg hnn hmax, List.length_take]
      omega
  simp only [readSheet, gt_iff_lt, hread, if_true]

/-- A body within a limit below the largest is read whole. -/
theorem take_readLimit_of_le (hmax : config.maxSize < 2 ^ 63 - 1) (h : body.length ≤ config.maxSize) :
    body.take (readLimit config.maxSize) = body := by
  rw [readLimit_of_nonneg (le_trans (Int.natCast_nonneg _) h) hmax]
  exact List.take_of_length_le (by omega)

/-- A body within a limit below the largest and without a binary signature is decoded whole. -/
theorem readSheet_of_le (hmax : config.maxSize < 2 ^ 63 - 1) (h : body.length ≤ config.maxSize)
    (hbin : FileKind.detect body = none) :
    readSheet config body contentType = .ok (decodeSheet config.forced body contentType) := by
  simp only [readSheet, take_readLimit_of_le config body hmax h, gt_iff_lt, not_lt.2 h, if_false,
    hbin]

/-- A body within a limit below the largest with a binary signature is refused for it. -/
theorem readSheet_of_le_of_binary (hmax : config.maxSize < 2 ^ 63 - 1)
    (h : body.length ≤ config.maxSize) {k : FileKind} (hbin : FileKind.detect body = some k) :
    readSheet config body contentType =
      .error (.plain ("binary content (" ++ k.mediaType ++ ") instead of stylesheet")) := by
  simp only [readSheet, take_readLimit_of_le config body hmax h, gt_iff_lt, not_lt.2 h, if_false,
    hbin]

end Body

/-- A response in the 2xx range is read as a stylesheet. -/
theorem Fetcher.receive_of_success (f : Fetcher) (url : String) (resp : Response)
    (hlo : 200 ≤ resp.status) (hhi : resp.status ≤ 299) :
    (f.receive url resp).2 = readSheet f.config resp.body resp.contentType := by
  have hstatus : (decide (resp.status < 200) || decide (resp.status > 299)) = false := by
    simp only [Bool.or_eq_false_iff, decide_eq_false_iff_not]
    omega
  simp only [Fetcher.receive, hstatus, Bool.false_eq_true, if_false]
  cases readSheet f.config resp.body resp.contentType <;> rfl

/-- **The size check is exact.** For every limit below the largest 64-bit number, a response in
the 2xx range is refused as too large exactly when its body is longer than the limit, and a
body within the limit without a binary signature is decoded whole. -/
theorem Fetcher.receive_size_limit (f : Fetcher) (url : String) (resp : Response)
    (hmax : f.config.maxSize < 2 ^ 63 - 1) (hlo : 200 ≤ resp.status) (hhi : resp.status ≤ 299) :
    ((f.receive url resp).2 =
        .error (.plain ("stylesheet is larger than " ++ toString f.config.maxSize ++ " bytes")) ↔
      f.config.maxSize < resp.body.length) ∧
    (resp.body.length ≤ f.config.maxSize → FileKind.detect resp.body = none →
      (f.receive url resp).2 = .ok (decodeSheet f.config.forced resp.body resp.contentType)) := by
  rw [f.receive_of_success url resp hlo hhi]
  refine ⟨⟨fun hfail => ?_, readSheet_of_lt _ _ _ hmax⟩, fun hle hbin => ?_⟩
  · -- a body within the limit is refused for its signature or read, never as too large
    refine lt_of_not_ge fun hle => ?_
    cases hbin : FileKind.detect resp.body with
    | none => rw [readSheet_of_le _ _ _ hmax hle hbin] at hfail; cases hfail
    | some k =>
      rw [readSheet_of_le_of_binary _ _ _ hmax hle hbin] at hfail
      exact binary_message_ne_tooLarge _ _ (Failure.plain.inj (Except.error.inj hfail))
  · exact readSheet_of_le _ _ _ hmax hle hbin

/-- A response carrying the seven bytes of `.a{b:c}`. -/
def sevenByteSheet : Response :=
  ⟨200, "text/css; charset=utf-8", [0x2e, 0x61, 0x7b, 0x62, 0x3a, 0x63, 0x7d]⟩

/-- A fetcher with the largest limit below the largest 64-bit number. -/
def nearLargestFetcher : Fetcher :=
  { config := { maxSize := 2 ^ 63 - 2, forced := some .utf8 } }

/-- The size check near the largest limit, for a body of seven bytes. -/
theorem receive_size_limit_near_largest :
    (nearLargestFetcher.config.maxSize < 2 ^ 63 - 1 ∧ 200 ≤ sevenByteSheet.status ∧
      sevenByteSheet.status ≤ 299) ∧
    (((nearLargestFetcher.receive "file:///a.css" sevenByteSheet).2 =
        .error (.plain ("stylesheet is larger than " ++ toString nearLargestFetcher.config.maxSize ++
          " bytes")) ↔
      nearLargestFetcher.config.maxSize < sevenByteSheet.body.length) ∧
    (sevenByteSheet.body.length ≤ nearLargestFetcher.config.maxSize →
      FileKind.detect sevenByteSheet.body = none →
      (nearLargestFetcher.receive "file:///a.css" sevenByteSheet).2 =
        .ok (decodeSheet nearLargestFetcher.config.forced sevenByteSheet.body
          sevenByteSheet.contentType))) :=
  ⟨⟨by decide, by decide, by decide⟩,
    Fetcher.receive_size_limit _ _ _ (by decide) (by decide) (by decide)⟩

/-- At the largest 64-bit limit, a response in the 2xx range is read as no bytes, whatever its
body. -/
theorem Fetcher.receive_largest_limit (f : Fetcher) (url : String) (resp : Response)
    (hmax : f.config.maxSize = 2 ^ 63 - 1) (hlo : 200 ≤ resp.status) (hhi : resp.status ≤ 299) :
    (f.receive url resp).2 = .ok (decodeSheet f.config.forced [] resp.contentType) := by
  rw [f.receive_of_success url resp hlo hhi]
  have hnone : FileKind.detect [] = none := rfl
  simp only [readSheet, hmax, readLimit_largest, List.take_zero, List.length_nil, hnone]
  rw [if_neg (by norm_num)]

/-- At the largest limit, the seven bytes of `.a{b:c}` arrive as the empty text. -/
theorem receive_largest_limit_empty :
    (({ config := { maxSize := 2 ^ 63 - 1, forced := some .utf8 } } : Fetcher).receive
        "file:///a.css" sevenByteSheet).2 = .ok "" ∧
    decodeSheet (some .utf8) sevenByteSheet.body sevenByteSheet.contentType = ".a{b:c}" := by
  refine ⟨?_, by decide +kernel⟩
  rw [Fetcher.receive_largest_limit _ _ _ rfl (by decide) (by decide)]
  exact congrArg Except.ok (by decide +kernel)

end CriticalCss.Fetch
