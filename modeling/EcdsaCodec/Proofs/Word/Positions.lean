import EcdsaCodec.Der.Acceptance
import EcdsaCodec.Word.Transcoding

/-!
# EcdsaCodec.Proofs.Word.Positions

Finding the two INTEGERs by position, against reading them octet by octet. Positions grow with the length
octets of a string that nothing has vouched for; each is looked at only after the checks that keep it
inside.

* `Finds` — the same fault on both sides, or positions between which the contents stand.
* `locate_finds`: finding always has a result, and reading has the same one.
-/

namespace EcdsaCodec
namespace Word

open Der

/-- Found by position what was read octet by octet: the same fault, or where the contents stand. -/
inductive Finds (der : Octets) :
    Except ReadFault Components → Option (Except ReadFault Positions) → Prop where
  | fault (fault : ReadFault) : Finds der (.error fault) (some (.error fault))
  | marked {c : Components} {p : Positions} : slice? der p.rStart p.sTag = some c.r →
      slice? der p.sStart der.length = some c.s → Finds der (.ok c) (some (.ok p))

section

variable {der rest : Octets} {rTag rLength declared : UInt8} {offset : Nat}

theorem getElem?_of_drop {bs tail : Octets} {start : Nat} (h : bs.drop start = tail) (i : Nat) :
    bs[start + i]? = tail[i]? := by
  rw [← h, List.getElem?_drop]

theorem header_of_drop {tag size : UInt8} {content : Octets}
    (h : der.drop offset = tag :: size :: content) :
    der[offset]? = some tag ∧ der[offset + 1]? = some size ∧ der.drop (offset + 2) = content ∧
      der.length = offset + 2 + content.length := by
  have length := congrArg List.length h
  simp only [List.length_drop, List.length_cons] at length
  refine ⟨getElem?_of_drop h 0, getElem?_of_drop h 1, ?_, by omega⟩
  rw [← List.drop_drop, h]
  rfl

theorem finds_check {p : Prop} [Decidable p] {fault : ReadFault}
    {read : Except ReadFault Components} {located : Option (Except ReadFault Positions)}
    (passed : ¬ p → Finds der read located) :
    Finds der (if p then .error fault else read) (if p then some (.error fault) else located) := by
  by_cases h : p
  · rw [if_pos h, if_pos h]
    exact .fault fault
  · rw [if_neg h, if_neg h]
    exact passed h

theorem finds_marked {rSize : Nat} {sTag sLength : UInt8} {s : Octets}
    (behind : der.drop offset = rTag :: rLength :: rest)
    (afterR : der.drop (offset + 2 + rSize) = sTag :: sLength :: s) :
    Finds der (.ok ⟨rest.take rSize, s⟩)
      (some (.ok ⟨offset + 2, offset + 2 + rSize, offset + 2 + rSize + 2⟩)) := by
  obtain ⟨-, -, rAt, -⟩ := header_of_drop behind
  obtain ⟨-, -, sAt, whole⟩ := header_of_drop afterR
  have rSlice : slice? der (offset + 2) (offset + 2 + rSize) = some (rest.take rSize) := by
    rw [slice?_of_le (Nat.le_add_right _ _) (by omega), List.drop_take, rAt,
      Nat.add_sub_cancel_left]
  have sSlice : slice? der (offset + 2 + rSize + 2) der.length = some s := by
    rw [slice?_of_le (by omega) (Nat.le_refl _), List.take_length, sAt]
  exact .marked rSlice sSlice

theorem locateFrom_finds (pos : 0 < offset) (behind : der.drop offset = rTag :: rLength :: rest)
    (before : der[offset - 1]? = some declared) (room : der.length + 512 < limit) :
    Finds der (readBody declared.toNat (rTag :: rLength :: rest)) (locateFrom der offset) := by
  obtain ⟨rTagAt, rLengthAt, rAt, whole⟩ := header_of_drop behind
  have rSmall : rLength.toNat < 256 := rLength.toNat_lt
  have afterR : der.drop (offset + 2 + rLength.toNat) = rest.drop rLength.toNat := by
    rw [← List.drop_drop, rAt]
  have rLengthPos : add? offset 1 = some (offset + 1) := add?_of_lt (by omega)
  have rPos : add? offset integerHeaderLength = some (offset + 2) :=
    add?_of_lt (show offset + 2 < limit by omega)
  have sTagPos : add? (offset + 2) rLength.toNat = some (offset + 2 + rLength.toNat) :=
    add?_of_lt (by omega)
  have sLengthPos : add? (offset + 2 + rLength.toNat) 1 = some (offset + 2 + rLength.toNat + 1) :=
    add?_of_lt (by omega)
  unfold locateFrom readBody
  rw [bind_of_eq_some rLengthPos, bind_of_eq_some rLengthAt]
  refine finds_check fun _ => ?_
  rw [bind_of_eq_some rPos, bind_of_eq_some sTagPos, bind_of_eq_some sLengthPos]
  cases tail : rest.drop rLength.toNat with
  | nil =>
    rw [getElem?_of_drop (afterR.trans tail) 1]
    exact .fault _
  | cons sTag tail' =>
    cases tail' with
    | nil =>
      rw [getElem?_of_drop (afterR.trans tail) 1]
      exact .fault _
    | cons sLength s =>
      obtain ⟨sTagAt, sLengthAt, -, -⟩ := header_of_drop (afterR.trans tail)
      have sSmall : sLength.toNat < 256 := sLength.toNat_lt
      have sPos : add? (offset + 2 + rLength.toNat) integerHeaderLength =
          some (offset + 2 + rLength.toNat + 2) :=
        add?_of_lt (show offset + 2 + rLength.toNat + 2 < limit by omega)
      have remaining : sub? der.length offset = some (rTag :: rLength :: rest).length := by
        rw [sub?_of_le (by omega), whole, List.length_cons, List.length_cons]
        congr 1
        omega
      have headers : mul? 2 integerHeaderLength = some (2 * integerHeaderLength) :=
        mul?_of_lt (show 4 < limit by omega)
      have withR : add? (2 * integerHeaderLength) rLength.toNat =
          some (2 * integerHeaderLength + rLength.toNat) :=
        add?_of_lt (show 4 + rLength.toNat < limit by omega)
      have withS : add? (2 * integerHeaderLength + rLength.toNat) sLength.toNat =
          some (2 * integerHeaderLength + rLength.toNat + sLength.toNat) :=
        add?_of_lt (show 4 + rLength.toNat + sLength.toNat < limit by omega)
      rw [sLengthAt]
      refine finds_check fun _ => ?_
      rw [bind_of_eq_some sPos, bind_of_eq_some (sub?_of_le pos), bind_of_eq_some before,
        bind_of_eq_some remaining, bind_of_eq_some headers, bind_of_eq_some withR,
        bind_of_eq_some withS, bind_of_eq_some rTagAt, bind_of_eq_some sTagAt]
      refine finds_check fun _ => finds_check fun _ => finds_check fun _ => ?_
      exact finds_marked behind (afterR.trans tail)

theorem exists_header (der : Octets) (offset : Nat) (h : offset + 2 ≤ der.length) :
    ∃ rTag rLength rest, der.drop offset = rTag :: rLength :: rest := by
  refine ⟨der[offset], der[offset + 1], der.drop (offset + 2), ?_⟩
  rw [List.drop_eq_getElem_cons (by omega), List.drop_eq_getElem_cons (by omega)]

theorem locate_finds (room : der.length + 512 < limit) :
    Finds der (read der) (locate der) := by
  unfold locate Der.read
  refine finds_check fun long => ?_
  rw [minSignatureLength, Nat.not_lt] at long
  obtain ⟨tag, form, tail, start⟩ := exists_header der 0 (by omega)
  rw [List.drop_zero] at start
  subst start
  have tagAt : (tag :: form :: tail)[0]? = some tag := rfl
  have formAt : (tag :: form :: tail)[1]? = some form := rfl
  rw [bind_of_eq_some tagAt, bind_of_eq_some formAt]
  simp only [readHeader, bodyStart?]
  by_cases isSequence : tag = sequenceTag
  · by_cases isLong : form = longFormOneOctet
    · cases tail with
      | nil => simp at long
      | cons declared body =>
        obtain ⟨rTag, rLength, rest, behind⟩ :=
          exists_header (tag :: form :: declared :: body) 3 (by omega)
        obtain rfl : body = rTag :: rLength :: rest := behind
        simp only [isSequence, isLong, ne_eq, not_true, if_false, if_true]
        exact locateFrom_finds (by decide) rfl rfl (by simpa using room)
    · by_cases unsupported : form = 0 ∨ shortFormMax < form.toNat
      · simp only [isSequence, isLong, unsupported, ne_eq, not_true, if_false, if_true]
        exact .fault _
      · obtain ⟨rTag, rLength, rest, behind⟩ :=
          exists_header (tag :: form :: tail) 2 (by omega)
        obtain rfl : tail = rTag :: rLength :: rest := behind
        simp only [isSequence, isLong, unsupported, ne_eq, not_true, if_false]
        exact locateFrom_finds (by decide) rfl rfl (by simpa using room)
  · simp only [isSequence, ne_eq, not_false_eq_true, if_true]
    exact .fault _

theorem locate_of_read_eq_error {fault : ReadFault} (room : der.length + 512 < limit)
    (h : read der = .error fault) : locate der = some (.error fault) := by
  have finds := locate_finds room
  rw [h] at finds
  generalize locate der = found at finds ⊢
  cases finds with
  | fault _ => rfl

end
end Word
end EcdsaCodec
