import Modelsmith.Proofs.Largest
import Modelsmith.Proofs.Network.Layers

/-! The forward pass through a network that validation accepts.

Rows that are no wider than the input go through, and every layer gives as many values as it has
units: the activation of what each unit sums up by itself, in the same order of additions. Wider
rows run past the weights of the first layer.
-/

set_option autoImplicit false

namespace Modelsmith

/-- Activations turn values into as many values. -/
def Arithmetic.KeepsLengths (arithmetic : Arithmetic) : Prop :=
  ∀ activation values, (arithmetic.activate activation values).length = values.length

theorem machine_keepsLengths : Arithmetic.machine.KeepsLengths := by
  intro activation values
  cases activation <;> simp [Arithmetic.machine, Activation.apply, Activation.share]

namespace Network

/-! ## Values on the way -/

/-- The values that the layers give, one layer after the other, in the forward pass. -/
def recordLayers (arithmetic : Arithmetic) (hidden last : Activation) :
    List (List (List Double)) → List (List Double) → List Double →
      Except EvaluationFault (List (List Double))
  | weights :: allWeights, biases :: allBiases, values => do
    let sums ← accumulate arithmetic biases values weights
    let next := arithmetic.activate (if allWeights.isEmpty then last else hidden) sums
    return next :: (← recordLayers arithmetic hidden last allWeights allBiases next)
  | _, _, _ => .ok []

def record (arithmetic : Arithmetic) (network : Network) (row : List Double) :
    Except EvaluationFault (List (List Double)) :=
  recordLayers arithmetic network.hidden (network.output.getD .identity) network.weights
    network.biases row

theorem forwardLayers_eq (arithmetic : Arithmetic) (hidden last : Activation)
    (allWeights : List (List (List Double))) (allBiases : List (List Double))
    (values : List Double) :
    forwardLayers arithmetic hidden last allWeights allBiases values =
      (recordLayers arithmetic hidden last allWeights allBiases values).map
        (·.getLastD values) := by
  induction allWeights generalizing allBiases values with
  | nil => rfl
  | cons weights allWeights ih =>
    cases allBiases with
    | nil => rfl
    | cons biases allBiases =>
      rw [forwardLayers, recordLayers]
      cases accumulate arithmetic biases values weights with
      | error fault => rfl
      | ok sums =>
        simp only [ok_bind, ih]
        cases recordLayers arithmetic hidden last allWeights allBiases
          (arithmetic.activate (if allWeights.isEmpty then last else hidden) sums) with
        | error fault => rfl
        | ok after =>
          simp only [Except.map, ok_bind, pure, Except.pure, List.getLastD_cons]

theorem forwardWith_eq (arithmetic : Arithmetic) (network : Network) (row : List Double) :
    network.forwardWith arithmetic row = (network.record arithmetic row).map (·.getLastD row) :=
  forwardLayers_eq ..

def activationAt (network : Network) (layer : Nat) : Activation :=
  if layer + 1 = network.layers.length then network.output.getD .identity else network.hidden

/-- A layer told unit by unit. -/
def ByUnits (arithmetic : Arithmetic) (activation : Activation) (weights : List (List Double))
    (biases before after : List Double) : Prop :=
  ∃ sums, after = arithmetic.activate activation sums ∧ sums.length = biases.length ∧
    ∀ unit bias, biases[unit]? = some bias →
      ∃ sum, sums[unit]? = some sum ∧ unitSum? arithmetic weights before unit bias = some sum

theorem byUnits_of_recordLayers {arithmetic : Arithmetic} {hidden last : Activation}
    {allWeights : List (List (List Double))} {allBiases : List (List Double)}
    (asMany : allBiases.length = allWeights.length) {values : List Double}
    {after : List (List Double)}
    (recorded : recordLayers arithmetic hidden last allWeights allBiases values = .ok after) :
    after.length = allWeights.length ∧
      ∀ layer before next, (values :: after)[layer]? = some before → after[layer]? = some next →
        ∃ weights biases, allWeights[layer]? = some weights ∧ allBiases[layer]? = some biases ∧
          ByUnits arithmetic (if layer + 1 = allWeights.length then last else hidden) weights biases
            before next := by
  induction allWeights generalizing allBiases values after with
  | nil =>
    cases recorded
    simp
  | cons weights allWeights ih =>
    cases allBiases with
    | nil => cases asMany
    | cons biases allBiases =>
      obtain ⟨sums, formed, rest⟩ := bind_eq_ok.mp recorded
      obtain ⟨below, recordedBelow, same⟩ := bind_eq_ok.mp rest
      cases same
      obtain ⟨length, byUnits⟩ := ih (Nat.succ.inj asMany) recordedBelow
      refine ⟨by simp [length], fun layer before next atBefore atNext => ?_⟩
      cases layer with
      | zero =>
        cases atBefore
        cases atNext
        refine ⟨weights, biases, rfl, rfl, sums, ?_, length_accumulate formed, fun unit bias read =>
          unitSum?_of_accumulate formed read⟩
        -- the first layer is the last one when no weights are left
        cases allWeights <;> simp
      | succ layer =>
        obtain ⟨weights, biases, atWeights, atBiases, told⟩ :=
          byUnits layer before next atBefore atNext
        exact ⟨weights, biases, atWeights, atBiases, by simpa using told⟩

theorem Fits.recordLayers_eq_ok {arithmetic : Arithmetic} (keeps : arithmetic.KeepsLengths)
    (hidden last : Activation) {inputs : Nat} {layers : List Nat}
    {allWeights : List (List (List Double))} {allBiases : List (List Double)}
    (fits : Fits inputs layers allWeights allBiases) {values : List Double}
    (short : values.length ≤ inputs) :
    ∃ after, recordLayers arithmetic hidden last allWeights allBiases values = .ok after ∧
      after.map List.length = layers := by
  induction fits generalizing values with
  | nil inputs => exact ⟨[], rfl, rfl⟩
  | @cons inputs units layers weights allWeights biases allBiases fitting fits ih =>
    obtain ⟨sums, formed⟩ := fitting.accumulate_eq_ok arithmetic short
    have next_length : (arithmetic.activate (if allWeights.isEmpty then last else hidden)
        sums).length = units := by
      rw [keeps, length_accumulate formed, fitting.biases]
    obtain ⟨after, recorded, lengths⟩ := ih (Nat.le_of_eq next_length)
    refine ⟨arithmetic.activate (if allWeights.isEmpty then last else hidden) sums :: after, ?_, ?_⟩
    · simp only [recordLayers, formed, ok_bind, recorded]
      rfl
    · rw [List.map_cons, lengths, next_length]

/-- The forward pass of an accepted network is what its units give. Whatever the arithmetic is, the
values after each layer are the activation of the sums that its units form from the values before,
each by itself and in the order of the inputs; and activations that keep lengths let every row pass
that is no wider than the input. -/
theorem forward_folds_units (network : Network) (accepted : network.validate = .ok ())
    (arithmetic : Arithmetic) (row : List Double) :
    (∀ after, network.record arithmetic row = .ok after →
      after.length = network.layers.length ∧
      network.forwardWith arithmetic row = .ok (after.getLastD row) ∧
      ∀ layer before next, (row :: after)[layer]? = some before → after[layer]? = some next →
        ∃ weights biases, network.weights[layer]? = some weights ∧
          network.biases[layer]? = some biases ∧
          ByUnits arithmetic (network.activationAt layer) weights biases before next) ∧
      (arithmetic.KeepsLengths → row.length ≤ network.inputCount →
        ∃ after, network.record arithmetic row = .ok after) := by
  obtain ⟨-, fits⟩ := fits_of_validate accepted
  constructor
  · intro after recorded
    obtain ⟨length, byUnits⟩ := byUnits_of_recordLayers
      (fits.length_biases.trans fits.length_weights.symm) recorded
    rw [fits.length_weights] at length byUnits
    exact ⟨length, by rw [forwardWith_eq, recorded, Except.map], byUnits⟩
  · intro keeps short
    obtain ⟨after, recorded, -⟩ := fits.recordLayers_eq_ok keeps network.hidden
      (network.output.getD .identity) short
    exact ⟨after, recorded⟩

/-- Two inputs, two hidden units and one output that tells two classes apart. -/
def lopsided : Network where
  layers := [2, 1]
  weights := [[[.one, .zero], [.zero, .one]], [[.one], [.one]]]
  biases := [[.zero, .one], [.one]]
  hidden := .tanh
  output := some .logistic

/-- Half a row passes both layers. -/
theorem forward_folds_units_lopsided :
    lopsided.validate = .ok () ∧ [Double.one].length ≤ lopsided.inputCount ∧
      ∃ after, lopsided.record .machine [.one] = .ok after ∧ after.length = 2 ∧
        lopsided.forwardWith .machine [.one] = .ok (after.getLastD [.one]) ∧
        ∀ layer before next, ([.one] :: after)[layer]? = some before → after[layer]? = some next →
          ∃ weights biases, lopsided.weights[layer]? = some weights ∧
            lopsided.biases[layer]? = some biases ∧
            ByUnits .machine (lopsided.activationAt layer) weights biases before next := by
  have short : [Double.one].length ≤ lopsided.inputCount := by decide
  refine ⟨rfl, short, ?_⟩
  obtain ⟨told, passes⟩ := forward_folds_units lopsided rfl .machine [.one]
  obtain ⟨after, recorded⟩ := passes machine_keepsLengths short
  exact ⟨after, recorded, told after recorded⟩

/-! ## Ranges -/

theorem Fits.forwardLayers_eq_error {arithmetic : Arithmetic} (hidden last : Activation)
    {inputs : Nat} {layers : List Nat} {allWeights : List (List (List Double))}
    {allBiases : List (List Double)} (fits : Fits inputs layers allWeights allBiases)
    (filled : layers ≠ []) {values : List Double} (long : inputs < values.length) :
    forwardLayers arithmetic hidden last allWeights allBiases values = .error .outOfRange := by
  cases fits with
  | nil => exact absurd rfl filled
  | cons fitting fits =>
    rw [forwardLayers, fitting.accumulate_eq_error long]
    rfl

theorem Fits.units_ne_zero {inputs : Nat} {layers : List Nat}
    {allWeights : List (List (List Double))} {allBiases : List (List Double)}
    (fits : Fits inputs layers allWeights allBiases) : ∀ units ∈ layers, units ≠ 0 := by
  induction fits with
  | nil => simp
  | cons fitting _ ih => exact List.forall_mem_cons.mpr ⟨fitting.someUnit, ih⟩

theorem length_outputShares (outputs : List Double) :
    (outputShares outputs).length = if outputs.length = 1 then 2 else outputs.length := by
  rcases outputs with _ | ⟨first, _ | ⟨second, rest⟩⟩ <;> simp [outputShares]

/-- The forward pass of an accepted network is out of range exactly for rows that are wider than the
input. On all others each layer gives a value for each of its units, there is a share for each
class, and the class is one of them. -/
theorem forward_in_range_iff (network : Network) (accepted : network.validate = .ok ())
    (row : List Double) :
    (network.forward row = .error .outOfRange ↔ network.inputCount < row.length) ∧
      (row.length ≤ network.inputCount → ∃ after outputs shares,
        network.record .machine row = .ok after ∧ after.map List.length = network.layers ∧
        after.getLast? = some outputs ∧ network.forward row = .ok outputs ∧
        outputs.length = network.outputCount ∧
        network.probabilities row = .ok shares ∧ shares.length = network.classCount ∧
        (network.isClassifier = true →
          ∃ class_ < network.classCount, network.predict row = .ok (Double.ofNat class_)) ∧
        (network.isClassifier = false →
          ∃ first, outputs.head? = some first ∧ network.predict row = .ok first)) := by
  obtain ⟨filled, fits⟩ := fits_of_validate accepted
  have narrow : row.length ≤ network.inputCount → ∃ after outputs,
      network.record .machine row = .ok after ∧ after.map List.length = network.layers ∧
      after.getLast? = some outputs ∧ network.forward row = .ok outputs ∧
      outputs.length = network.outputCount ∧ outputs ≠ [] := by
    intro short
    obtain ⟨after, recorded, lengths⟩ := fits.recordLayers_eq_ok machine_keepsLengths
      network.hidden (network.output.getD .identity) short
    have some_layer : after ≠ [] := by
      rintro rfl
      exact filled lengths.symm
    have last := List.getLast?_eq_some_getLast some_layer
    have count : network.layers.getLast? = some (after.getLast some_layer).length := by
      rw [← lengths, List.getLast?_map, last, Option.map_some]
    refine ⟨after, after.getLast some_layer, recorded, lengths, last, ?_, ?_, ?_⟩
    · rw [forward, forwardWith_eq, record, recorded, Except.map, List.getLastD_eq_getLast?, last,
        Option.getD_some]
    · rw [outputCount, count, Option.getD_some]
    · rw [← List.length_pos_iff]
      exact Nat.pos_of_ne_zero (fits.units_ne_zero _ (List.mem_of_getLast? count))
  constructor
  · constructor
    · intro failed
      refine Nat.lt_of_not_le fun short => ?_
      obtain ⟨after, outputs, -, -, -, given, -⟩ := narrow short
      rw [given] at failed
      cases failed
    · exact fits.forwardLayers_eq_error _ _ filled
  · intro short
    obtain ⟨after, outputs, recorded, lengths, last, given, count, some_output⟩ := narrow short
    have shared : network.probabilities row = .ok (outputShares outputs) := by
      rw [probabilities, given, Except.map]
    have classes : (outputShares outputs).length = network.classCount := by
      rw [length_outputShares, count, classCount]
    refine ⟨after, outputs, _, recorded, lengths, last, given, count, shared, classes, ?_, ?_⟩
    · intro classifier
      refine ⟨_, ?_, by rw [predict, if_pos classifier, shared, Except.map]⟩
      rw [← classes]
      refine firstLargest_lt _ fun none => some_output ?_
      have length := length_outputShares outputs
      rw [none, List.length_nil] at length
      split at length
      · cases length
      · exact List.length_eq_zero_iff.mp length.symm
    · intro regressor
      obtain ⟨first, rest, rfl⟩ := List.exists_cons_of_ne_nil some_output
      exact ⟨first, rfl, by rw [predict, regressor, given]; rfl⟩

/-- Three values are too many for two inputs, and one of them is enough. -/
theorem forward_in_range_iff_lopsided :
    lopsided.validate = .ok () ∧ lopsided.forward [.one, .one, .one] = .error .outOfRange ∧
      ∃ outputs shares, lopsided.forward [.one] = .ok outputs ∧ outputs.length = 1 ∧
        lopsided.probabilities [.one] = .ok shares ∧ shares.length = 2 ∧
        ∃ class_ < 2, lopsided.predict [.one] = .ok (Double.ofNat class_) := by
  refine ⟨rfl, (forward_in_range_iff lopsided rfl _).1.mpr (by decide), ?_⟩
  obtain ⟨after, outputs, shares, -, -, -, given, count, shared, classes, chosen, -⟩ :=
    (forward_in_range_iff lopsided rfl [.one]).2 (by decide)
  exact ⟨outputs, shares, given, count, shared, classes, chosen rfl⟩

end Network

end Modelsmith
