import Modelsmith.Network.Evaluation
import Modelsmith.Proofs.Tree.WellFormed

/-! The layers of a network that validation accepts, and the sums that are formed in each.

Each layer takes as many values as the one before it gives. Sums are formed input by input, over all
units at once; a unit gets what it would get alone, from its bias on, one input after the other.
-/

set_option autoImplicit false

namespace Modelsmith.Network

/-! ## Shape -/

/-- A layer with a row of weights for each input and a weight and a bias for each unit. -/
structure Fitting (inputs units : Nat) (weights : List (List Double)) (biases : List Double) :
    Prop where
  someUnit : units ≠ 0
  rows : weights.length = inputs
  columns : ∀ row ∈ weights, row.length = units
  biases : biases.length = units

/-- Layers that fit together, given the number of values that the first one takes. -/
inductive Fits : Nat → List Nat → List (List (List Double)) → List (List Double) → Prop where
  | nil (inputs : Nat) : Fits inputs [] [] []
  | cons {inputs units : Nat} {layers : List Nat} {weights : List (List Double)}
      {allWeights : List (List (List Double))} {biases : List Double}
      {allBiases : List (List Double)} :
      Fitting inputs units weights biases → Fits units layers allWeights allBiases →
      Fits inputs (units :: layers) (weights :: allWeights) (biases :: allBiases)

theorem fitting_of_checkLayer {layer inputs units : Nat} {weights : List (List Double)}
    {biases : List Double} (passed : checkLayer layer inputs units weights biases = .ok ()) :
    Fitting inputs units weights biases := by
  simp only [checkLayer, bind_eq_ok, require_eq_ok, decide_eq_true_eq, exists_const] at passed
  obtain ⟨someUnit, rows, rest⟩ := passed
  split at rest
  · obtain ⟨_, thrown, -⟩ := bind_eq_ok.mp rest
    cases thrown
  · rename_i none
    exact ⟨someUnit, rows, by simpa using Tree.firstFailing_eq_none.mp none,
      by simpa [require_eq_ok] using rest⟩

theorem fits_of_checkLayers {layer inputs : Nat} {layers : List Nat}
    {allWeights : List (List (List Double))} {allBiases : List (List Double)}
    (asManyWeights : allWeights.length = layers.length)
    (asManyBiases : allBiases.length = layers.length)
    (passed : checkLayers layer inputs layers allWeights allBiases = .ok ()) :
    Fits inputs layers allWeights allBiases := by
  induction layers generalizing layer inputs allWeights allBiases with
  | nil =>
    rw [List.length_eq_zero_iff.mp asManyWeights, List.length_eq_zero_iff.mp asManyBiases]
    exact .nil inputs
  | cons units layers ih =>
    cases allWeights with
    | nil => cases asManyWeights
    | cons weights allWeights =>
      cases allBiases with
      | nil => cases asManyBiases
      | cons biases allBiases =>
        obtain ⟨_, here, below⟩ := bind_eq_ok.mp passed
        exact .cons (fitting_of_checkLayer here)
          (ih (Nat.succ.inj asManyWeights) (Nat.succ.inj asManyBiases) below)

theorem fits_of_validate {network : Network} (accepted : network.validate = .ok ()) :
    network.layers ≠ [] ∧
      Fits network.inputCount network.layers network.weights network.biases := by
  simp only [validate, bind_eq_ok, require_eq_ok, exists_const, Bool.and_eq_true,
    decide_eq_true_eq] at accepted
  obtain ⟨filled, -, -, ⟨asManyWeights, asManyBiases⟩, -, _, passed, -⟩ := accepted
  exact ⟨by simpa using filled, fits_of_checkLayers asManyWeights asManyBiases passed⟩

theorem Fits.length_weights {inputs : Nat} {layers : List Nat}
    {allWeights : List (List (List Double))} {allBiases : List (List Double)}
    (fits : Fits inputs layers allWeights allBiases) : allWeights.length = layers.length := by
  induction fits with
  | nil => rfl
  | cons _ _ ih => simp [ih]

theorem Fits.length_biases {inputs : Nat} {layers : List Nat}
    {allWeights : List (List (List Double))} {allBiases : List (List Double)}
    (fits : Fits inputs layers allWeights allBiases) : allBiases.length = layers.length := by
  induction fits with
  | nil => rfl
  | cons _ _ ih => simp [ih]

/-! ## Sums -/

section
variable {arithmetic : Arithmetic}

theorem addInput_eq_ok {input : Double} {units row : List Double}
    (enough : units.length ≤ row.length) :
    addInput arithmetic input units row =
      .ok (List.zipWith (fun unit weight => arithmetic.add unit (arithmetic.mul input weight))
        units row) := by
  induction units generalizing row with
  | nil => rfl
  | cons unit units ih =>
    cases row with
    | nil => simp at enough
    | cons weight row =>
      rw [addInput, ih (by simpa using enough)]
      rfl

theorem accumulate_eq_ok {units inputs : List Double} {weights : List (List Double)}
    (columns : ∀ row ∈ weights, row.length = units.length)
    (short : inputs.length ≤ weights.length) :
    ∃ sums, accumulate arithmetic units inputs weights = .ok sums := by
  induction inputs generalizing units weights with
  | nil => exact ⟨units, rfl⟩
  | cons input inputs ih =>
    cases weights with
    | nil => simp at short
    | cons row weights =>
      have wide := columns row (by simp)
      rw [accumulate, addInput_eq_ok (Nat.le_of_eq wide.symm), ok_bind]
      refine ih (fun other member => ?_) (by simpa using short)
      simp [columns other (by simp [member]), wide]

theorem accumulate_eq_error {units inputs : List Double} {weights : List (List Double)}
    (columns : ∀ row ∈ weights, row.length = units.length) (long : weights.length < inputs.length) :
    accumulate arithmetic units inputs weights = .error .outOfRange := by
  induction inputs generalizing units weights with
  | nil => simp at long
  | cons input inputs ih =>
    cases weights with
    | nil => rfl
    | cons row weights =>
      have wide := columns row (by simp)
      rw [accumulate, addInput_eq_ok (Nat.le_of_eq wide.symm), ok_bind]
      refine ih (fun other member => ?_) (by simpa using long)
      simp [columns other (by simp [member]), wide]

theorem Fitting.accumulate_eq_ok (arithmetic : Arithmetic) {inputs units : Nat}
    {weights : List (List Double)} {biases : List Double}
    (fitting : Fitting inputs units weights biases) {values : List Double}
    (short : values.length ≤ inputs) :
    ∃ sums, accumulate arithmetic biases values weights = .ok sums :=
  Network.accumulate_eq_ok (by rw [fitting.biases]; exact fitting.columns)
    (by rw [fitting.rows]; exact short)

theorem Fitting.accumulate_eq_error {inputs units : Nat} {weights : List (List Double)}
    {biases : List Double} (fitting : Fitting inputs units weights biases) {values : List Double}
    (long : inputs < values.length) :
    accumulate arithmetic biases values weights = .error .outOfRange :=
  Network.accumulate_eq_error (by rw [fitting.biases]; exact fitting.columns)
    (by rw [fitting.rows]; exact long)

theorem length_addInput {input : Double} {units row sums : List Double}
    (added : addInput arithmetic input units row = .ok sums) : sums.length = units.length := by
  induction units generalizing row sums with
  | nil =>
    cases added
    rfl
  | cons unit units ih =>
    cases row with
    | nil => cases added
    | cons weight row =>
      obtain ⟨rest, below, same⟩ := bind_eq_ok.mp added
      cases same
      rw [List.length_cons, ih below, List.length_cons]

theorem length_accumulate {units inputs sums : List Double} {weights : List (List Double)}
    (formed : accumulate arithmetic units inputs weights = .ok sums) :
    sums.length = units.length := by
  induction inputs generalizing units weights with
  | nil =>
    cases formed
    rfl
  | cons input inputs ih =>
    cases weights with
    | nil => cases formed
    | cons row weights =>
      obtain ⟨added, first, rest⟩ := bind_eq_ok.mp formed
      rw [ih rest, length_addInput first]

/-- A sum with one more input, times its weight for a unit. The weight is read at its place. -/
def addWeighted? (arithmetic : Arithmetic) (weights : List (List Double)) (unit : Nat)
    (sum : Double) (input : Double × Nat) : Option Double := do
  let row ← weights[input.2]?
  let weight ← row[unit]?
  return arithmetic.add sum (arithmetic.mul input.1 weight)

/-- The sum of one unit: from its bias on, over the inputs in order. -/
def unitSum? (arithmetic : Arithmetic) (weights : List (List Double)) (inputs : List Double)
    (unit : Nat) (bias : Double) : Option Double :=
  inputs.zipIdx.foldlM (addWeighted? arithmetic weights unit) bias

theorem getElem?_addInput {input : Double} {units row sums : List Double}
    (added : addInput arithmetic input units row = .ok sums) {unit : Nat} {bias : Double}
    (read : units[unit]? = some bias) :
    ∃ weight, row[unit]? = some weight ∧
      sums[unit]? = some (arithmetic.add bias (arithmetic.mul input weight)) := by
  induction units generalizing row sums unit with
  | nil => simp at read
  | cons first units ih =>
    cases row with
    | nil => cases added
    | cons weight row =>
      obtain ⟨rest, below, same⟩ := bind_eq_ok.mp added
      cases same
      cases unit with
      | zero =>
        cases read
        exact ⟨weight, rfl, rfl⟩
      | succ unit => exact ih below read

/-- The loop over inputs leaves each unit with its own sum. `before` holds the rows of weights of
the inputs that were added already. -/
theorem getElem?_accumulate {units inputs sums : List Double} (before : List (List Double))
    {weights : List (List Double)}
    (formed : accumulate arithmetic units inputs weights = .ok sums) {unit : Nat} {bias : Double}
    (read : units[unit]? = some bias) :
    ∃ sum, sums[unit]? = some sum ∧
      (inputs.zipIdx before.length).foldlM (addWeighted? arithmetic (before ++ weights) unit) bias =
        some sum := by
  induction inputs generalizing units weights before bias with
  | nil =>
    cases formed
    exact ⟨bias, read, rfl⟩
  | cons input inputs ih =>
    cases weights with
    | nil => cases formed
    | cons row weights =>
      obtain ⟨added, first, rest⟩ := bind_eq_ok.mp formed
      obtain ⟨weight, atUnit, next⟩ := getElem?_addInput first read
      obtain ⟨sum, atSums, folded⟩ := ih (before ++ [row]) rest next
      refine ⟨sum, atSums, ?_⟩
      have step : addWeighted? arithmetic (before ++ row :: weights) unit bias
          (input, before.length) = some (arithmetic.add bias (arithmetic.mul input weight)) := by
        simp [addWeighted?, atUnit]
      rw [List.zipIdx_cons, List.foldlM_cons, step]
      simpa using folded

theorem unitSum?_of_accumulate {biases inputs sums : List Double} {weights : List (List Double)}
    (formed : accumulate arithmetic biases inputs weights = .ok sums) {unit : Nat} {bias : Double}
    (read : biases[unit]? = some bias) :
    ∃ sum, sums[unit]? = some sum ∧ unitSum? arithmetic weights inputs unit bias = some sum :=
  getElem?_accumulate [] formed read

end

end Modelsmith.Network
