import EcdsaCodec.Proofs.Canonical
import EcdsaCodec.Proofs.Signature

/-!
# EcdsaCodec.Proofs.Signature.Width

Signatures of the length that an ECDSA algorithm asks for. Halves of a field element are far below
every limit of the DER forms: a field element of `f` octets takes at most `f + 1` content octets, so
the body of a signature takes at most `2 * f + 6` (`length_body_numbers_le`), which is 138 for the
widest curve.

`Algorithm.lossless` says what this means for the typed conversions: at the length of an algorithm
each of them succeeds and nothing gets lost, and at any other length, or for an algorithm without a
curve, nothing gets through.
-/

namespace EcdsaCodec

open Der Transcoding

theorem Curve.fieldSize_le (k : Curve) : k.fieldSize ≤ 66 := by
  cases k <;> decide

/-- The body of a signature on this curve needs the long outer form only at the widest field. -/
theorem Curve.fieldSize_of_long {k : Curve} (h : 127 < 2 * k.fieldSize + 6) :
    k.fieldSize = 66 := by
  cases k with
  | p256 => exact absurd h (by decide)
  | p384 => exact absurd h (by decide)
  | p521 => rfl

section

variable {k : Curve} {octets : Octets}

theorem length_body_numbers_le (h : octets.length = 2 * k.fieldSize) :
    (body (contents (numbers octets))).length ≤ 2 * k.fieldSize + 6 := by
  have r := contentLength_trim_le (Components.ofConcat octets).r
  have s := contentLength_trim_le (Components.ofConcat octets).s
  rw [Components.length_ofConcat_r] at r
  rw [Components.length_ofConcat_s] at s
  rw [length_body_contents, numbers, Components.trim_r, Components.trim_s]
  omega

theorem derOfConcat_of_length (h : octets.length = 2 * k.fieldSize) :
    (derOfConcat octets).result = .ok (frame (contents (numbers octets))) := by
  have wide := k.fieldSize_le
  have hb := length_body_numbers_le h
  exact derOfConcat_eq_ok_iff.2 ⟨by omega, by omega, rfl⟩

theorem fitsShortForm_of_length (h : octets.length = 2 * k.fieldSize) :
    FitsShortForm (numbers octets) := by
  have wide := k.fieldSize_le
  exact fitsShortForm_of_length_le (by omega) (by omega)

theorem length_frame_numbers_le (h : octets.length = 2 * k.fieldSize) :
    (frame (contents (numbers octets))).length ≤
      2 * k.fieldSize + if k.fieldSize = 66 then 9 else 8 := by
  have hb := length_body_numbers_le h
  rw [length_frame]
  by_cases long : 127 < 2 * k.fieldSize + 6
  · rw [if_pos (Curve.fieldSize_of_long long)]
    split <;> omega
  · rw [if_pos (Nat.le_trans hb (Nat.not_lt.1 long))]
    split <;> omega

theorem components_of_length (h : octets.length = 2 * k.fieldSize) :
    ConcatSignature.components ⟨octets⟩ =
      ⟨octets.take k.fieldSize, octets.drop k.fieldSize⟩ := by
  have half : octets.length / 2 = k.fieldSize := by omega
  rw [ConcatSignature.components, Components.ofConcat, half]

theorem codec_of_length {a : Algorithm} (hk : a.curve? = some k)
    (h : octets.length = 2 * k.fieldSize) :
    ∃ d, (ConcatSignature.toDer ⟨octets⟩).result = .ok d ∧ Canonical d.octets ∧
      d.octets.length ≤ 2 * k.fieldSize + (if k.fieldSize = 66 then 9 else 8) ∧
      (d.toConcatFor a).result = .ok ⟨octets⟩ := by
  have written := derOfConcat_of_length h
  have fits := fitsShortForm_of_length h
  refine ⟨⟨frame (contents (numbers octets))⟩, ConcatSignature.toDer_eq_ok_iff.2 written,
    (canonical_iff_fits written).2 fits, length_frame_numbers_le h, ?_⟩
  rw [DerSignature.toConcatFor_of_curve hk, DerSignature.toConcat_eq_ok_iff,
    Curve.signatureLength, ← h]
  exact concatOfDer_own_length written fits

end

/-- **The typed conversions are a total codec at the length of each ECDSA algorithm**, and every other
length and every other algorithm is refused. -/
theorem Algorithm.lossless (a : Algorithm) (octets : Octets) :
    (∀ k, a.curve? = some k →
      ((∃ c, (ConcatSignature.ofOctetsFor a octets).result = .ok c) ↔
        octets.length = 2 * k.fieldSize) ∧
      (∀ c, (ConcatSignature.ofOctetsFor a octets).result = .ok c →
        c.octets = octets ∧ c.curve? = some k ∧
        c.components = ⟨octets.take k.fieldSize, octets.drop k.fieldSize⟩ ∧
        ∃ d, c.toDer.result = .ok d ∧ Canonical d.octets ∧
          d.octets.length ≤ 2 * k.fieldSize + (if k.fieldSize = 66 then 9 else 8) ∧
          (d.toConcatFor a).result = .ok c) ∧
      (octets.length ≠ 2 * k.fieldSize → (ConcatSignature.ofOctetsFor a octets).result =
        .error (.invalidFormat "concat signature" "length does not match algorithm"))) ∧
    (a.isEllipticCurve = false →
      (ConcatSignature.ofOctetsFor a octets).result = .error (.unsupportedAlgorithm a.name) ∧
      (DerSignature.toConcatFor ⟨octets⟩ a).result = .error (.unsupportedAlgorithm a.name)) := by
  refine ⟨?_, ?_⟩
  · intro k hk
    have accepted : ∀ {c}, (ConcatSignature.ofOctetsFor a octets).result = .ok c ↔
        octets.length = 2 * k.fieldSize ∧ c = ⟨octets⟩ := ConcatSignature.ofOctetsFor_eq_ok_iff hk
    refine ⟨?_, ?_, ?_⟩
    · constructor
      · rintro ⟨c, ok⟩
        exact (accepted.1 ok).1
      · intro h
        exact ⟨⟨octets⟩, accepted.2 ⟨h, rfl⟩⟩
    · intro c ok
      obtain ⟨h, rfl⟩ := accepted.1 ok
      exact ⟨rfl, ConcatSignature.curve?_eq_some_iff.2 h, components_of_length h,
        codec_of_length hk h⟩
    · intro other
      rw [ConcatSignature.ofOctetsFor_of_curve hk, Curve.signatureLength, if_neg other]
  · intro other
    have hk := Algorithm.curve?_eq_none_iff.2 other
    rw [ConcatSignature.ofOctetsFor_of_no_curve hk, DerSignature.toConcatFor_of_no_curve hk]
    exact ⟨rfl, rfl⟩

/-- Both halves full at the widest curve, where the DER form is as long as it gets, and octets that
are refused for the algorithm before anything is asked of them. -/
theorem Algorithm.lossless_es512_and_hs256 :
    ((ConcatSignature.ofOctetsFor .es512 (List.replicate 132 0xff)).result =
        .ok ⟨List.replicate 132 0xff⟩ ∧
      ∃ d, (ConcatSignature.toDer ⟨List.replicate 132 0xff⟩).result = .ok d ∧
        Canonical d.octets ∧ d.octets.length ≤ 141 ∧
        (d.toConcatFor .es512).result = .ok ⟨List.replicate 132 0xff⟩) ∧
    ((ConcatSignature.ofOctetsFor .hs256 [0x30]).result =
        .error (.unsupportedAlgorithm "HS256") ∧
      (DerSignature.toConcatFor ⟨[0x30]⟩ .hs256).result =
        .error (.unsupportedAlgorithm "HS256")) := by
  constructor
  · obtain ⟨accepted, codec, -⟩ :=
      (Algorithm.lossless .es512 (List.replicate 132 0xff)).1 .p521 rfl
    obtain ⟨c, ok⟩ := accepted.2 (by decide +kernel)
    obtain ⟨same, -, -, back⟩ := codec c ok
    obtain ⟨octets⟩ := c
    cases same
    exact ⟨ok, back⟩
  · exact (Algorithm.lossless .hs256 [0x30]).2 rfl

end EcdsaCodec
