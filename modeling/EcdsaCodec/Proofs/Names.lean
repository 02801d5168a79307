import EcdsaCodec.Algorithm

/-!
# EcdsaCodec.Proofs.Names

The readings of a name agree on every text: by itself, in a document, and on the way to the curve.
Names stand in two tables, algorithms in two lists, and two functions lead from algorithms to curves
and back; an entry that is wrong in one of them would set the readings apart for some text.

* `CurveReading`: what a text may lead to, the width and the name of one curve, or twice the same
  error.
* `curveReading_parse`: it leads there, for each text.
* `readings_agree`: all readings together.
-/

namespace EcdsaCodec

/-- What becomes of a text that is read as the name of an algorithm with a curve: a width and the
name of a curve, or errors. -/
inductive CurveReading (text : String) : Except Error Nat → Except Error String → Prop where
  | named {a : Algorithm} {k : Curve} : a.isEllipticCurve = true → text = a.name →
      (∀ k' : Curve, k'.algorithm.name = text ↔ k' = k) →
      CurveReading text (.ok k.signatureLength) (.ok k.asn1Name)
  | refused : (∀ a : Algorithm, a.isEllipticCurve = true → text ≠ a.name) →
      CurveReading text (.error (.unsupportedAlgorithm text)) (.error (.unsupportedAlgorithm text))

theorem Curve.eq_of_algorithm_name_eq {k k' : Curve} (h : k.algorithm.name = k'.algorithm.name) :
    k = k' := by
  have curves : some k = some k' := by
    rw [← Curve.curve?_algorithm k, Algorithm.eq_of_name_eq h, Curve.curve?_algorithm]
  exact Option.some.inj curves

namespace Algorithm

theorem isEllipticCurve_iff {a : Algorithm} :
    a.isEllipticCurve = true ↔ ∃ k : Curve, a = k.algorithm := by
  rw [← curve?_isSome, Option.isSome_iff_exists]
  exact exists_congr fun k => curve?_eq_some_iff

theorem mem_ellipticNames_iff {text : String} :
    text ∈ ["ES256", "ES384", "ES512"] ↔
      ∃ a : Algorithm, a.isEllipticCurve = true ∧ text = a.name := by
  constructor
  · intro listed
    simp only [List.mem_cons, List.not_mem_nil, or_false] at listed
    rcases listed with rfl | rfl | rfl
    · exact ⟨.es256, rfl, rfl⟩
    · exact ⟨.es384, rfl, rfl⟩
    · exact ⟨.es512, rfl, rfl⟩
  · rintro ⟨a, elliptic, rfl⟩
    obtain ⟨k, rfl⟩ := isEllipticCurve_iff.1 elliptic
    cases k <;> simp [Curve.algorithm, name]

/-! ## From a text to a curve -/

theorem parse_name (a : Algorithm) : parse a.name = .ok a := parse_eq_ok_iff.2 rfl

theorem parse_of_unknown {text : String} (h : ∀ a : Algorithm, text ≠ a.name) :
    parse text = .error (.unsupportedAlgorithm text) := by
  rw [parse]
  cases found : names.find? text with
  | none => rfl
  | some a => exact absurd (Registry.name_of_find? found).symm (h a)

theorem parse_bind_curve_of_ne {text : String}
    (h : ∀ a : Algorithm, a.isEllipticCurve = true → text ≠ a.name) :
    (parse text).bind curve = .error (.unsupportedAlgorithm text) := by
  by_cases known : ∃ a : Algorithm, text = a.name
  · obtain ⟨a, rfl⟩ := known
    have other : a.isEllipticCurve = false := Bool.eq_false_iff.2 fun elliptic => h a elliptic rfl
    rw [parse_name]
    exact curve_of_curve?_eq_none (curve?_eq_none_iff.2 other)
  · rw [parse_of_unknown (not_exists.1 known)]
    rfl

theorem curveReading_parse (text : String) :
    CurveReading text ((parse text).bind signatureLength) ((parse text).bind curveName) := by
  have length : (parse text).bind signatureLength =
      ((parse text).bind curve).map Curve.signatureLength :=
    (map_bind Curve.signatureLength (parse text) curve).symm
  have name : (parse text).bind curveName = ((parse text).bind curve).map Curve.asn1Name :=
    (map_bind Curve.asn1Name (parse text) curve).symm
  rw [length, name]
  by_cases elliptic : ∃ a : Algorithm, a.isEllipticCurve = true ∧ text = a.name
  · obtain ⟨a, elliptic, rfl⟩ := elliptic
    obtain ⟨k, rfl⟩ := isEllipticCurve_iff.1 elliptic
    have found : (parse k.algorithm.name).bind curve = .ok k := by
      rw [parse_name]
      exact Curve.curve_algorithm k
    rw [found]
    exact .named elliptic rfl fun k' =>
      ⟨Curve.eq_of_algorithm_name_eq, fun same => by rw [same]⟩
  · have other (a : Algorithm) (h : a.isEllipticCurve = true) : text ≠ a.name :=
      fun same => elliptic ⟨a, h, same⟩
    rw [parse_bind_curve_of_ne other]
    exact .refused other

/-- **The readings of a name agree.** A text is parsed as an algorithm exactly if it is its name,
and exactly then a document with this text is read as the algorithm; what is written is the name.
Curves are read by the names of JSON Web Keys. To a width and the name of a curve lead three texts
only, each to those of the one curve whose algorithm it names; any other comes back in the
error. -/
theorem readings_agree (text : String) :
    (∀ a : Algorithm, (parse text = .ok a ↔ text = a.name) ∧
      (registry.read (.text text) = .ok a ↔ text = a.name) ∧
      registry.write a = .text a.name ∧ registry.read (registry.write a) = .ok a) ∧
    (∀ k : Curve, Curve.registry.read (.text text) = .ok k ↔ text = k.jwkName) ∧
    (text ∈ ["ES256", "ES384", "ES512"] ↔
      ∃ a : Algorithm, a.isEllipticCurve = true ∧ text = a.name) ∧
    CurveReading text ((parse text).bind signatureLength) ((parse text).bind curveName) := by
  refine ⟨fun a => ⟨parse_eq_ok_iff, ?_, ?_, Registry.read_write registry_faithful a⟩,
    fun k => ?_, mem_ellipticNames_iff, curveReading_parse text⟩
  · rw [← documentName_eq]
    exact Registry.read_text_eq_ok_iff registry_faithful
  · rw [← documentName_eq]
    rfl
  · rw [← Curve.documentName_eq]
    exact Registry.read_text_eq_ok_iff Curve.registry_faithful

end Algorithm
end EcdsaCodec
