import EcdsaCodec.Signature.Run

/-!
# EcdsaCodec.Workbench

Signatures kept under names, and steps that make, convert, compare and show them.

* `Workbench.get?`, `put`, `remove` — the signature under a name. A name holds one signature.
* `Workbench.step` — what a step answers, and the workbench after it. A step that is refused leaves
  everything as it was.
-/

namespace EcdsaCodec

/-- Signatures by name, the one put last in front. -/
structure Workbench where
  slots : List (String × Signature)
  deriving Repr

namespace Workbench

/-- What a step does. An algorithm is given by its text, read only once the named slots are found. -/
inductive Step where
  | der (target : String) (octets : Octets)
  | concat (target : String) (octets : Octets)
  | concatFor (target algorithm : String) (octets : Octets)
  | toConcat (source target : String) (outputLength : Nat)
  | toConcatFor (source target algorithm : String)
  | toDer (source target : String)
  | copy (source target : String)
  | recast (source target : String)
  | take (source : String)
  | peek (source : String)
  | components (source : String)
  | curve (source : String)
  | equal (first second : String)
  | summary (source : String)
  | distinct
  deriving DecidableEq, Repr

inductive Answer where
  | octets (bs : Octets)
  | components (c : Components)
  | curve (k : Option Curve)
  | truth (b : Bool)
  | text (s : String)
  | counts (der concat : Nat)
  deriving DecidableEq, Repr

inductive Refusal where
  /-- A named slot is empty, or holds the other form. -/
  | slot
  | failed (e : Error)
  deriving DecidableEq, Repr

structure Report where
  answer : Except Refusal Answer
  diagnostics : List Diagnostic
  deriving Repr

def Report.ok (answer : Answer) : Report := ⟨.ok answer, []⟩

def Report.noSlot : Report := ⟨.error .slot, []⟩

def empty : Workbench := ⟨[]⟩

def get? (w : Workbench) (name : String) : Option Signature := w.slots.lookup name

def remove (w : Workbench) (name : String) : Workbench :=
  ⟨w.slots.filter (fun slot => slot.1 ≠ name)⟩

/-- Puts a signature under a name, in place of what was there. -/
def put (w : Workbench) (name : String) (s : Signature) : Workbench :=
  ⟨(name, s) :: (w.remove name).slots⟩

def der? (w : Workbench) (name : String) : Option DerSignature :=
  (w.get? name).bind Signature.der?

def concat? (w : Workbench) (name : String) : Option ConcatSignature :=
  (w.get? name).bind Signature.concat?

def countDistinct {α : Type} [DecidableEq α] (w : Workbench) (form? : Signature → Option α) : Nat :=
  (w.slots.filterMap (fun slot => form? slot.2)).eraseDups.length

/-- Puts the product of a conversion under a name, and answers its octets. -/
def store (w : Workbench) (target : String) (x : Reported Signature) : Report × Workbench :=
  match x.result with
  | .error e => (⟨.error (.failed e), x.diagnostics⟩, w)
  | .ok s => (⟨.ok (.octets s.octets), x.diagnostics⟩, w.put target s)

/-- The same, for a conversion that needs an algorithm given by its text. -/
def storeFor (w : Workbench) (target algorithm : String) (make : Algorithm → Reported Signature) :
    Report × Workbench :=
  match Algorithm.parse algorithm with
  | .error e => w.store target (.silent (.error e))
  | .ok a => w.store target (make a)

def step (w : Workbench) : Step → Report × Workbench
  | .der target octets => w.store target (.silent (.ok (.der ⟨octets⟩)))
  | .concat target octets => w.store target (.silent (.ok (.concat ⟨octets⟩)))
  | .concatFor target algorithm octets =>
    w.storeFor target algorithm (fun a => (ConcatSignature.ofOctetsFor a octets).map .concat)
  | .toConcat source target outputLength =>
    match w.der? source with
    | none => (.noSlot, w)
    | some d => w.store target ((d.toConcat outputLength).map .concat)
  | .toConcatFor source target algorithm =>
    match w.der? source with
    | none => (.noSlot, w)
    | some d => w.storeFor target algorithm (fun a => (d.toConcatFor a).map .concat)
  | .toDer source target =>
    match w.concat? source with
    | none => (.noSlot, w)
    | some c => w.store target (c.toDer.map .der)
  | .copy source target =>
    match w.get? source with
    | none => (.noSlot, w)
    | some s => w.store target (.silent (.ok s))
  | .recast source target =>
    match w.get? source with
    | none => (.noSlot, w)
    | some s => (w.remove source).store target (.silent (.ok s.recast))
  | .take source =>
    match w.get? source with
    | none => (.noSlot, w)
    | some s => (.ok (.octets s.octets), w.remove source)
  | .peek source =>
    match w.get? source with
    | none => (.noSlot, w)
    | some s => (.ok (.octets s.octets), w)
  | .components source =>
    match w.concat? source with
    | none => (.noSlot, w)
    | some c => (.ok (.components c.components), w)
  | .curve source =>
    match w.concat? source with
    | none => (.noSlot, w)
    | some c => (.ok (.curve c.curve?), w)
  | .equal first second =>
    match w.get? first, w.get? second with
    | some s, some t => (.ok (.truth (s = t)), w)
    | _, _ => (.noSlot, w)
  | .summary source =>
    match w.get? source with
    | none => (.noSlot, w)
    | some s => (.ok (.text s.summary), w)
  | .distinct =>
    (.ok (.counts (w.countDistinct Signature.der?) (w.countDistinct Signature.concat?)), w)

/-! ## Slots -/

theorem get?_remove_self (w : Workbench) (name : String) : (w.remove name).get? name = none := by
  rw [get?, List.lookup_eq_none_iff]
  intro slot h
  have kept : slot.1 ≠ name := by simpa using (List.mem_filter.1 h).2
  exact bne_iff_ne.2 kept.symm

theorem get?_remove_of_ne {name other : String} (h : other ≠ name) (w : Workbench) :
    (w.remove name).get? other = w.get? other := by
  obtain ⟨slots⟩ := w
  simp only [get?, remove]
  induction slots with
  | nil => rfl
  | cons slot slots ih =>
    obtain ⟨key, s⟩ := slot
    by_cases hk : key = name
    · subst hk
      simpa [List.lookup_cons, beq_eq_false_iff_ne.2 h] using ih
    · by_cases ho : other = key
      · simp [hk, ho]
      · simpa [hk, List.lookup_cons, beq_eq_false_iff_ne.2 ho] using ih

theorem get?_put_self (w : Workbench) (name : String) (s : Signature) :
    (w.put name s).get? name = some s := by
  simp [get?, put]

theorem get?_put_of_ne {name other : String} (h : other ≠ name) (w : Workbench) (s : Signature) :
    (w.put name s).get? other = w.get? other := by
  rw [← get?_remove_of_ne h w]
  simp [get?, put, List.lookup_cons, beq_eq_false_iff_ne.2 h]

end Workbench
end EcdsaCodec
