import LexicalFrontEnd.Output.Sink

/-!
Sinks keep a beginning of what is offered to them.

Pieces that are offered one after another are kept like the whole of them
(`offerAll_eq`), and so are pieces that are written up to the first that does not
fit, because nothing fits behind it (`writeAll_eq`).
-/

namespace LexicalFrontEnd
namespace Output

def bytesOf (pieces : List String) : List UInt8 :=
  pieces.flatMap fun piece => Text.Utf8.encode piece.toList

theorem bytesOf_cons (piece : String) (pieces : List String) :
    bytesOf (piece :: pieces) = Text.Utf8.encode piece.toList ++ bytesOf pieces := rfl

theorem bytesOf_append (first second : List String) :
    bytesOf (first ++ second) = bytesOf first ++ bytesOf second := List.flatMap_append

theorem bytesOf_eq_encode (pieces : List String) :
    bytesOf pieces = Text.Utf8.encode (pieces.flatMap String.toList) := by
  rw [bytesOf, Text.Utf8.encode, List.flatMap_assoc]
  rfl

namespace Sink

variable {s : Sink} {bytes first second : List UInt8}

def Fits (s : Sink) (bytes : List UInt8) : Prop := s.fitting bytes = bytes

instance (s : Sink) (bytes : List UInt8) : Decidable (s.Fits bytes) :=
  inferInstanceAs (Decidable (_ = _))

/-- The sink with as many of the bytes as it has room for. -/
def keep (s : Sink) (bytes : List UInt8) : Sink :=
  { s with written := s.written ++ (s.fitting bytes).toArray }

theorem prefix_of_fitting (s : Sink) (bytes : List UInt8) : s.fitting bytes <+: bytes := by
  rw [fitting]
  cases s.limit? with
  | none => exact List.prefix_rfl
  | some limit => exact List.take_prefix _ _

theorem fits_nil (s : Sink) : s.Fits [] := List.prefix_nil.mp (s.prefix_of_fitting [])

theorem keep_nil (s : Sink) : s.keep [] = s := by
  rw [keep, s.fits_nil, Array.append_empty]

theorem fitting_append (s : Sink) (first second : List UInt8) :
    s.fitting (first ++ second) = s.fitting first ++ (s.keep first).fitting second := by
  obtain ⟨limit?, written⟩ := s
  cases limit? with
  | none => rfl
  | some limit =>
    have hroom : limit - (written.size + min (limit - written.size) first.length) =
        limit - written.size - first.length := by omega
    simp only [fitting, keep, Array.size_append, List.size_toArray, List.length_take, hroom,
      List.take_append]

theorem keep_append (s : Sink) (first second : List UInt8) :
    s.keep (first ++ second) = (s.keep first).keep second := by
  simp only [keep, fitting_append, ← List.append_toArray, Array.append_assoc]

theorem fits_append : s.Fits (first ++ second) ↔ s.Fits first ∧ (s.keep first).Fits second := by
  rw [Fits, fitting_append]
  constructor
  · intro h
    have hfirst := (s.prefix_of_fitting first).length_le
    have hsecond := ((s.keep first).prefix_of_fitting second).length_le
    have hlength := congrArg List.length h
    rw [List.length_append, List.length_append] at hlength
    exact List.append_inj h (by omega)
  · rintro ⟨hfirst, hsecond⟩
    rw [hfirst, hsecond]

/-- Where not all of the bytes fit, nothing fits behind them. -/
theorem keep_keep_of_not_fits (h : ¬s.Fits bytes) (more : List UInt8) :
    (s.keep bytes).keep more = s.keep bytes := by
  have hfull : (s.keep bytes).fitting more = [] := by
    obtain ⟨limit?, written⟩ := s
    cases limit? with
    | none => exact absurd rfl h
    | some limit =>
      have hlt : limit - written.size < bytes.length := by
        rw [← Nat.not_le]
        exact mt List.take_of_length_le h
      have hroom : limit - (written.size + min (limit - written.size) bytes.length) = 0 := by omega
      simp only [fitting, keep, Array.size_append, List.size_toArray, List.length_take, hroom,
        List.take_zero]
  rw [keep, hfull, Array.append_empty]

theorem write_eq (s : Sink) (piece : String) :
    s.write piece =
      (decide (s.Fits (Text.Utf8.encode piece.toList)),
        s.keep (Text.Utf8.encode piece.toList)) := by
  rw [write, keep]
  congr 1
  rw [Bool.eq_iff_iff, beq_iff_eq, decide_eq_true_eq]
  exact ⟨(s.prefix_of_fitting _).eq_of_length, fun h => congrArg List.length h⟩

theorem offerAll_eq (s : Sink) (pieces : List String) :
    s.offerAll pieces = s.keep (bytesOf pieces) := by
  rw [offerAll, bytesOf]
  induction pieces generalizing s with
  | nil => exact s.keep_nil.symm
  | cons piece pieces ih => rw [List.foldl_cons, ih, write_eq, List.flatMap_cons, keep_append]

theorem writeAll_eq (s : Sink) (pieces : List String) :
    s.writeAll pieces = (decide (s.Fits (bytesOf pieces)), s.keep (bytesOf pieces)) := by
  rw [bytesOf]
  induction pieces generalizing s with
  | nil => rw [writeAll, List.flatMap_nil, keep_nil, decide_eq_true s.fits_nil]
  | cons piece pieces ih =>
    simp only [writeAll, write_eq, List.flatMap_cons, keep_append, fits_append, ih]
    by_cases hfit : s.Fits (Text.Utf8.encode piece.toList)
    · simp only [hfit, decide_true, if_true, true_and]
    · simp only [hfit, decide_false, Bool.false_eq_true, if_false, false_and,
        keep_keep_of_not_fits hfit]

/-! ## Without a limit -/

theorem fits_of_unlimited (h : s.limit? = none) (bytes : List UInt8) : s.Fits bytes := by
  rw [Fits, fitting, h]

theorem toList_written_keep (h : s.limit? = none) (bytes : List UInt8) :
    (s.keep bytes).written.toList = s.written.toList ++ bytes := by
  rw [keep, fits_of_unlimited h, Array.toList_append]

/-! ## From the first byte on -/

theorem fits_ofLimit {limit : Nat} :
    (ofLimit (some limit)).Fits bytes ↔ bytes.length ≤ limit := by
  constructor
  · intro h
    have hlength : min limit bytes.length = bytes.length :=
      List.length_take.symm.trans (congrArg List.length h)
    exact hlength ▸ Nat.min_le_left limit bytes.length
  · exact List.take_of_length_le

theorem keep_ofLimit (limit : Nat) (bytes : List UInt8) :
    (ofLimit (some limit)).keep bytes = ⟨some limit, (bytes.take limit).toArray⟩ :=
  congrArg (Sink.mk _) (Array.empty_append)

theorem keep_unlimited (bytes : List UInt8) : (ofLimit none).keep bytes = ⟨none, bytes.toArray⟩ :=
  congrArg (Sink.mk _) (Array.empty_append)

end Sink
end Output
end LexicalFrontEnd
