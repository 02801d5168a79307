import EcdsaCodec.Proofs.Octets.Digits
import EcdsaCodec.Proofs.Signature
import EcdsaCodec.Signature.Run

/-!
# EcdsaCodec.Proofs.Signature.Run

Runs of conversions from one form of a signature to the other and back.

* `Converts s c s'` — the conversion `c` of `s` succeeds with `s'`, said with frames and numbers
  (`converts_iff`).
* `Carries m s`     — `s` stands for the numbers `m`, as far as it can be read. Every conversion
  preserves it (`carries_of_converts`), so it holds of all that a run goes through.
* `Settled m s`     — moreover, what is written for `m` can be read back. From there on every
  conversion succeeds (`converts_of_settled`), and its product is settled again.

`Run.no_drift` puts them together: the products of a run depend on the two numbers of its start and
on the output length of their own step, whatever came before.
-/

namespace EcdsaCodec

open Der Transcoding

def Conversion.outputLength? : Conversion → Option Nat
  | toConcat outputLength => some outputLength
  | toConcatFor a => a.curve?.map Curve.signatureLength
  | toDer => none

def Conversion.isSupported : Conversion → Bool
  | toConcat _ => true
  | toConcatFor a => a.isEllipticCurve
  | toDer => true

def Signature.after (s : Signature) : List (Conversion × Signature) → Signature
  | [] => s
  | (_, s') :: rest => s'.after rest

/-- Some signature is written in the run, and the next step reads it back. -/
def ReadsBack (steps : List (Conversion × Signature)) : Prop :=
  ∃ written c back, [(.toDer, written), (c, .concat back)] <:+: steps

inductive Converts : Signature → Conversion → Signature → Prop where
  | read {d : DerSignature} {c : Conversion} {outputLength : Nat} {i : Components} :
      c.outputLength? = some outputLength → Der.read d.octets = .ok i →
      Converts (.der d) c (.concat ⟨i.trim.join (max i.trim.width (outputLength / 2))⟩)
  | write {x : ConcatSignature} : x.octets.length % 2 = 0 →
      (body (contents (numbers x.octets))).length ≤ 255 →
      Converts (.concat x) .toDer (.der ⟨frame (contents (numbers x.octets))⟩)

/-- As far as `s` can be read, its numbers are those of `m`. -/
def Carries (m : Components) : Signature → Prop
  | .der d => ∀ i, read d.octets = .ok i → i.trim = m.trim
  | .concat x => numbers x.octets = m.trim

/-- Has the form that it is taken for: DER that can be read, or two halves of one length. -/
def Signature.WellFormed : Signature → Prop
  | .der d => ∃ i, read d.octets = .ok i
  | .concat x => x.octets.length % 2 = 0

/-- `s` is a well-formed signature of numbers whose DER form can be written and read back. -/
structure Settled (m : Components) (s : Signature) : Prop where
  short : (body (contents m.trim)).length ≤ 255
  fits : FitsShortForm m.trim
  carries : Carries m s
  wellFormed : s.WellFormed

section

variable {m : Components} {s s' p : Signature} {c : Conversion}
  {steps rest : List (Conversion × Signature)}

/-! ## Single steps -/

theorem toConcat_eq_ok_iff_read {d : DerSignature} {outputLength : Nat} :
    ((d.toConcat outputLength).map Signature.concat).result = .ok s ↔
      ∃ i, read d.octets = .ok i ∧
        s = .concat ⟨i.trim.join (max i.trim.width (outputLength / 2))⟩ := by
  rw [Reported.result_map_eq_ok_iff]
  constructor
  · rintro ⟨⟨octets⟩, hx, rfl⟩
    obtain ⟨i, hi, rfl⟩ := concatOfDer_eq_ok_iff.1 (DerSignature.toConcat_eq_ok_iff.1 hx)
    exact ⟨i, hi, rfl⟩
  · rintro ⟨i, hi, rfl⟩
    exact ⟨_, DerSignature.toConcat_eq_ok_iff.2 (concatOfDer_eq_ok_iff.2 ⟨i, hi, rfl⟩), rfl⟩

theorem report_of_converts (h : Converts s c s') :
    ∃ report, s.convert? c = some report ∧ report.result = .ok s' := by
  cases h with
  | read hc hi =>
    cases c with
    | toConcat n =>
      cases hc
      exact ⟨_, rfl, toConcat_eq_ok_iff_read.2 ⟨_, hi, rfl⟩⟩
    | toConcatFor a =>
      obtain ⟨k, hk, rfl⟩ := Option.map_eq_some_iff.1 hc
      refine ⟨_, rfl, ?_⟩
      rw [DerSignature.toConcatFor_of_curve hk]
      exact toConcat_eq_ok_iff_read.2 ⟨_, hi, rfl⟩
    | toDer => cases hc
  | write even short =>
    have written := derOfConcat_eq_ok_iff.2 ⟨even, short, rfl⟩
    exact ⟨_, rfl, Reported.result_map_eq_ok_iff.2
      ⟨⟨_⟩, ConcatSignature.toDer_eq_ok_iff.2 written, rfl⟩⟩

theorem converts_of_report {report : Reported Signature} (hconvert : s.convert? c = some report)
    (ok : report.result = .ok s') : Converts s c s' := by
  cases s with
  | der d =>
    cases c with
    | toConcat n =>
      cases hconvert
      obtain ⟨i, hi, rfl⟩ := toConcat_eq_ok_iff_read.1 ok
      exact .read rfl hi
    | toConcatFor a =>
      cases hconvert
      cases hk : a.curve? with
      | none =>
        rw [DerSignature.toConcatFor_of_no_curve hk] at ok
        cases ok
      | some k =>
        rw [DerSignature.toConcatFor_of_curve hk] at ok
        obtain ⟨i, hi, rfl⟩ := toConcat_eq_ok_iff_read.1 ok
        exact .read (congrArg (Option.map Curve.signatureLength) hk) hi
    | toDer => cases hconvert
  | concat x =>
    cases c with
    | toConcat n => cases hconvert
    | toConcatFor a => cases hconvert
    | toDer =>
      cases hconvert
      obtain ⟨⟨octets⟩, hd, rfl⟩ := Reported.result_map_eq_ok_iff.1 ok
      obtain ⟨even, short, rfl⟩ := derOfConcat_eq_ok_iff.1 (ConcatSignature.toDer_eq_ok_iff.1 hd)
      exact .write even short

theorem converts_iff :
    Converts s c s' ↔ ∃ report, s.convert? c = some report ∧ report.result = .ok s' :=
  ⟨report_of_converts, fun ⟨_, hconvert, ok⟩ => converts_of_report hconvert ok⟩

theorem run_cons_iff : Run s ((c, s') :: rest) ↔ Converts s c s' ∧ Run s' rest := by
  rw [converts_iff]
  constructor
  · intro run
    cases run with
    | cons hconvert ok run => exact ⟨⟨_, hconvert, ok⟩, run⟩
  · rintro ⟨⟨report, hconvert, ok⟩, run⟩
    exact .cons hconvert ok run

theorem eq_of_writes (carries : Carries m s) (h : Converts s .toDer p) :
    p = .der ⟨frame (contents m.trim)⟩ := by
  cases h with
  | read hc hi => cases hc
  | write even short => rw [show numbers _ = m.trim from carries]

theorem octets_of_reads {x : ConcatSignature} (carries : Carries m s)
    (h : Converts s c (.concat x)) :
    ∃ outputLength, c.outputLength? = some outputLength ∧
      x.octets = m.trim.join (max m.trim.width (outputLength / 2)) := by
  cases h with
  | read hc hi =>
    refine ⟨_, hc, ?_⟩
    rw [carries _ hi]

/-! ## The numbers of a run -/

theorem carries_of_converts (carries : Carries m s) (h : Converts s c s') : Carries m s' := by
  cases h with
  | read hc hi =>
    rw [carries _ hi]
    exact (numbers_join (Nat.le_max_left _ _)).trans (Components.trim_trim m)
  | write even short =>
    -- what was written reads as its own contents, or not at all
    intro i hi
    rw [((read_frame_eq_ok_iff short).1 hi).2, trim_contents, trim_numbers]
    exact carries

theorem converts_of_mem (carries : Carries m s) (run : Run s steps) (member : (c, p) ∈ steps) :
    ∃ s', Carries m s' ∧ Converts s' c p := by
  induction steps generalizing s with
  | nil => cases member
  | cons step rest ih =>
    obtain ⟨c', s'⟩ := step
    obtain ⟨converts, run⟩ := run_cons_iff.1 run
    cases member with
    | head => exact ⟨s, carries, converts⟩
    | tail _ member => exact ih (carries_of_converts carries converts) run member

theorem start_of_converts (h : Converts s c s') :
    ∃ start, s.components? = some start ∧ Carries start s := by
  cases h with
  | @read d _ _ i _ hi =>
    refine ⟨i, by rw [Signature.components?, hi]; rfl, ?_⟩
    intro j hj
    rw [hi] at hj
    cases hj
    rfl
  | @write x _ _ => exact ⟨x.components, rfl, rfl⟩

theorem start_of_run (run : Run s steps) (member : (c, p) ∈ steps) :
    ∃ start, s.components? = some start ∧ Carries start s := by
  cases steps with
  | nil => cases member
  | cons step rest => exact start_of_converts (run_cons_iff.1 run).1

theorem written_of_run {q : Signature} (run : Run s steps) (hp : (.toDer, p) ∈ steps)
    (hq : (.toDer, q) ∈ steps) : p = q := by
  obtain ⟨start, -, carries⟩ := start_of_run run hp
  obtain ⟨_, carriesP, writesP⟩ := converts_of_mem carries run hp
  obtain ⟨_, carriesQ, writesQ⟩ := converts_of_mem carries run hq
  rw [eq_of_writes carriesP writesP, eq_of_writes carriesQ writesQ]

theorem reading_of_run {x : ConcatSignature} (run : Run s steps)
    (member : (c, .concat x) ∈ steps) :
    ∃ start outputLength, s.components? = some start ∧ c.outputLength? = some outputLength ∧
      x.components.values = start.values ∧
      x.octets.length = 2 * max start.trim.width (outputLength / 2) := by
  obtain ⟨start, hstart, carries⟩ := start_of_run run member
  obtain ⟨_, carries, reads⟩ := converts_of_mem carries run member
  obtain ⟨outputLength, hc, octets⟩ := octets_of_reads carries reads
  have wide := Nat.le_max_left start.trim.width (outputLength / 2)
  refine ⟨start, outputLength, hstart, hc, ?_, ?_⟩
  · rw [ConcatSignature.components, octets, Components.values_ofConcat_join wide,
      Components.values_trim]
  · rw [octets, Components.length_join wide]

/-! ## Where no conversion fails any more -/

theorem settled_of_converts (settled : Settled m s) (h : Converts s c s') : Settled m s' := by
  refine ⟨settled.short, settled.fits, carries_of_converts settled.carries h, ?_⟩
  cases h with
  | read hc hi => exact Components.length_join_mod_two (Nat.le_max_left _ _)
  | write even short =>
    rw [show numbers _ = m.trim from settled.carries]
    exact ⟨_, (read_frame_eq_ok_iff settled.short).2 ⟨settled.fits, rfl⟩⟩

theorem settled_after (settled : Settled m s) (run : Run s steps) :
    Settled m (s.after steps) := by
  induction steps generalizing s with
  | nil => exact settled
  | cons step rest ih =>
    obtain ⟨c', s'⟩ := step
    obtain ⟨converts, run⟩ := run_cons_iff.1 run
    exact ih (settled_of_converts settled converts) run

theorem outputLength_of_supported {a : Algorithm} (h : a.isEllipticCurve = true) :
    ∃ outputLength, (Conversion.toConcatFor a).outputLength? = some outputLength := by
  rw [← Algorithm.curve?_isSome] at h
  obtain ⟨k, hk⟩ := Option.isSome_iff_exists.1 h
  exact ⟨k.signatureLength, congrArg (Option.map Curve.signatureLength) hk⟩

theorem converts_of_settled {report : Reported Signature} (settled : Settled m s)
    (supported : c.isSupported = true) (hconvert : s.convert? c = some report) :
    ∃ s', Converts s c s' := by
  obtain ⟨short, fits, carries, wellFormed⟩ := settled
  cases s with
  | der d =>
    obtain ⟨i, hi⟩ := wellFormed
    cases c with
    | toConcat n => exact ⟨_, .read rfl hi⟩
    | toConcatFor a =>
      obtain ⟨outputLength, hc⟩ := outputLength_of_supported supported
      exact ⟨_, .read hc hi⟩
    | toDer => cases hconvert
  | concat x =>
    have same : numbers x.octets = m.trim := carries
    cases c with
    | toConcat n => cases hconvert
    | toConcatFor a => cases hconvert
    | toDer => exact ⟨_, .write wellFormed (by rw [same]; exact short)⟩

theorem settled_of_written_and_read {back : ConcatSignature} (carries : Carries m s)
    (writes : Converts s .toDer p) (reads : Converts p c (.concat back)) :
    Settled m (.concat back) := by
  have still := carries_of_converts (carries_of_converts carries writes) reads
  cases writes with
  | read hc hi => cases hc
  | write even short =>
    rw [show numbers _ = m.trim from carries] at short reads
    cases reads with
    | read hc hi =>
      have fits := ((read_frame_eq_ok_iff short).1 hi).1
      exact ⟨short, fits, still, Components.length_join_mod_two (Nat.le_max_left _ _)⟩

theorem settled_of_readsBack (carries : Carries m s) (run : Run s steps)
    (readsBack : ReadsBack steps) : Settled m (s.after steps) := by
  obtain ⟨written, c, back, before, rest, rfl⟩ := readsBack
  induction before generalizing s with
  | nil =>
    obtain ⟨writes, run⟩ := run_cons_iff.1 run
    obtain ⟨reads, run⟩ := run_cons_iff.1 run
    have last := settled_after (settled_of_written_and_read carries writes reads) run
    exact last
  | cons step before ih =>
    obtain ⟨c', s'⟩ := step
    obtain ⟨converts, run⟩ := run_cons_iff.1 run
    exact ih (carries_of_converts carries converts) run

theorem succeeds_of_readsBack {report : Reported Signature} (run : Run s steps)
    (readsBack : ReadsBack steps) (supported : c.isSupported = true)
    (hconvert : (s.after steps).convert? c = some report) : ∃ s', report.result = .ok s' := by
  have ⟨written, _, _, inside⟩ := readsBack
  have first : (.toDer, written) ∈ steps := inside.subset List.mem_cons_self
  obtain ⟨start, -, carries⟩ := start_of_run run first
  have settled := settled_of_readsBack carries run readsBack
  obtain ⟨s', converts⟩ := converts_of_settled settled supported hconvert
  obtain ⟨report', hconvert', ok⟩ := report_of_converts converts
  rw [hconvert] at hconvert'
  cases hconvert'
  exact ⟨s', ok⟩

end

/-- **Runs do not drift.** Whatever is written in a run is the same signature every time. Whatever is
read has the numbers of the start, in a length that these and its own step decide. Once a written
signature was read back, no conversion fails. -/
theorem Run.no_drift {s : Signature} {steps : List (Conversion × Signature)} (run : Run s steps) :
    (∀ p q, (.toDer, p) ∈ steps → (.toDer, q) ∈ steps → p = q) ∧
    (∀ c x, (c, .concat x) ∈ steps → ∃ start outputLength, s.components? = some start ∧
      c.outputLength? = some outputLength ∧
      x.components.r.value = start.r.value ∧ x.components.s.value = start.s.value ∧
      x.octets.length = 2 * max (max (Octets.octetCount start.r.value)
        (Octets.octetCount start.s.value)) (outputLength / 2)) ∧
    (ReadsBack steps → ∀ c report, c.isSupported = true →
      (s.after steps).convert? c = some report → ∃ s', report.result = .ok s') := by
  refine ⟨fun p q hp hq => written_of_run run hp hq, ?_, ?_⟩
  · intro c x member
    obtain ⟨start, outputLength, hstart, hc, values, length⟩ := reading_of_run run member
    rw [Components.width_trim] at length
    exact ⟨start, outputLength, hstart, hc, congrArg Prod.fst values, congrArg Prod.snd values,
      length⟩
  · intro readsBack c report supported hconvert
    exact succeeds_of_readsBack run readsBack supported hconvert

/-- From a padded R and an empty S, over halves that have to grow and halves that have room. -/
theorem Run.no_drift_from_padded :
    Run (.der ⟨[0x30, 0x81, 0x08, 0x02, 0x04, 0x00, 0x00, 0x01, 0x80, 0x02, 0x00]⟩)
        [(.toConcat 2, .concat ⟨[0x01, 0x80, 0x00, 0x00]⟩),
          (.toDer, .der ⟨[0x30, 0x07, 0x02, 0x02, 0x01, 0x80, 0x02, 0x01, 0x00]⟩),
          (.toConcatFor .es256,
            .concat ⟨List.replicate 30 0 ++ [0x01, 0x80] ++ List.replicate 32 0⟩),
          (.toDer, .der ⟨[0x30, 0x07, 0x02, 0x02, 0x01, 0x80, 0x02, 0x01, 0x00]⟩)] ∧
      ∀ outputLength, ∃ s',
        ((DerSignature.toConcat ⟨[0x30, 0x07, 0x02, 0x02, 0x01, 0x80, 0x02, 0x01, 0x00]⟩
          outputLength).map Signature.concat).result = .ok s' := by
  have run : Run (.der ⟨[0x30, 0x81, 0x08, 0x02, 0x04, 0x00, 0x00, 0x01, 0x80, 0x02, 0x00]⟩)
      [(.toConcat 2, .concat ⟨[0x01, 0x80, 0x00, 0x00]⟩),
        (.toDer, .der ⟨[0x30, 0x07, 0x02, 0x02, 0x01, 0x80, 0x02, 0x01, 0x00]⟩),
        (.toConcatFor .es256,
          .concat ⟨List.replicate 30 0 ++ [0x01, 0x80] ++ List.replicate 32 0⟩),
        (.toDer, .der ⟨[0x30, 0x07, 0x02, 0x02, 0x01, 0x80, 0x02, 0x01, 0x00]⟩)] :=
    .cons rfl rfl (.cons rfl rfl (.cons rfl rfl (.cons rfl rfl .nil)))
  obtain ⟨-, -, progress⟩ := Run.no_drift run
  refine ⟨run, fun outputLength => ?_⟩
  exact progress ⟨_, .toConcatFor .es256, _, [_], [_], rfl⟩ (.toConcat outputLength) _ rfl rfl

end EcdsaCodec
