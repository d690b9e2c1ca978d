import BimodalArbitrage.Ml.Inference

/-!
# The Modal worker (`modal_app.py`)

The worker hands the depth grid over without its channel dimension, so on no window and
no grid does it feed a model what `evaluate_spread` feeds it.
-/

namespace BimodalArbitrage.Ml

namespace BimodalInferenceWorker

/-- The model of the worker is put in evaluation mode once. -/
def loadModel (net : Net) : Net := net.eval

variable (torch : Torch)

/-- What `evaluate` passes to the model. -/
def tensors (temporalWindow depthGrid : List (List ℚ)) :
    Except PyError (Tensor ℚ × Tensor ℚ) := do
  let temporalTensor ← torch.tensor temporalWindow
  let depthTensor ← torch.tensor depthGrid
  pure (temporalTensor.unsqueeze, depthTensor.unsqueeze)

def evaluate (model : Net) (temporalWindow depthGrid : List (List ℚ)) :
    Except PyError (ArbitrageSignal ℚ) := do
  let tensors ← tensors torch temporalWindow depthGrid
  let output ← model.call tensors.1 tensors.2
  let executionProbability ← torch.float output.executionProbability
  let expectedAlphaBps ← torch.float output.expectedAlphaBps
  let adverseHazard ← torch.float output.adverseHazard
  pure ⟨executionProbability, expectedAlphaBps, adverseHazard⟩

end BimodalInferenceWorker

open BimodalInferenceWorker

section
variable (torch : Torch) (window grid : List (List ℚ))

def SameTensors : Prop := tensors torch window grid = spreadTensors torch ⟨window⟩ ⟨grid⟩

/-- Every model answers both with the same three values. -/
def SameSignals : Prop :=
  ∀ net signal, evaluate torch (loadModel net) window grid = .ok signal ↔
    (evaluateSpread torch net ⟨window⟩ ⟨grid⟩).1 = .ok signal

end

section
variable {torch : Torch} {window grid : List (List ℚ)} {temporal depth : Tensor ℚ}

theorem BimodalInferenceWorker.tensors_eq (hwindow : torch.tensor window = .ok temporal)
    (hgrid : torch.tensor grid = .ok depth) :
    tensors torch window grid = .ok (temporal.unsqueeze, depth.unsqueeze) := by
  rw [tensors, hwindow, hgrid]
  rfl

theorem evaluate_ofSignal {float32 : ℚ → ℚ} (htorch : torch.Documented float32)
    (hwindow : torch.tensor window = .ok temporal) (hgrid : torch.tensor grid = .ok depth)
    {net : Net} {signal : ArbitrageSignal ℚ}
    (hforward : net.forward false temporal.unsqueeze depth.unsqueeze = .ok (.ofSignal signal)) :
    evaluate torch (loadModel net) window grid = .ok signal := by
  have hcall : (loadModel net).call temporal.unsqueeze depth.unsqueeze =
      .ok (.ofSignal signal) := hforward
  have hfloat (x : ℚ) : torch.float (.single 2 x) = .ok x := htorch.float rfl
  rw [evaluate, tensors_eq hwindow hgrid, ok_bind, hcall, ok_bind, Outputs.ofSignal, hfloat,
    hfloat, hfloat]
  rfl

theorem not_sameTensors (hwindow : torch.tensor window = .ok temporal)
    (hgrid : torch.tensor grid = .ok depth) : ¬SameTensors torch window grid := by
  intro h
  rw [SameTensors, tensors_eq hwindow hgrid, spreadTensors_eq hwindow hgrid] at h
  have hdepth := congrArg Prod.snd (Except.ok.inj h)
  exact depth.unsqueeze.unsqueeze_ne hdepth.symm

/-- It returns the number of dimensions of its depth image. -/
def rankNet : Net where
  training := true
  forward _ _ depthImage := .ok (.ofSignal ⟨depthImage.rank, depthImage.rank, depthImage.rank⟩)

theorem not_sameSignals {float32 : ℚ → ℚ} (htorch : torch.Documented float32)
    (hwindow : torch.tensor window = .ok temporal) (hgrid : torch.tensor grid = .ok depth) :
    ¬SameSignals torch window grid := by
  intro h
  have hworker : evaluate torch (loadModel rankNet) window grid = .ok _ :=
    evaluate_ofSignal htorch hwindow hgrid rfl
  have hspread : (evaluateSpread torch rankNet ⟨window⟩ ⟨grid⟩).1 = .ok _ :=
    evaluateSpread_ofSignal htorch hwindow hgrid rfl
  rw [(h rankNet _).mp hworker] at hspread
  have hrank := congrArg ArbitrageSignal.executionProbability (Except.ok.inj hspread)
  rw [Nat.cast_inj, Tensor.rank_unsqueeze depth.unsqueeze] at hrank
  omega

end

theorem worker_never_agrees {torch : Torch} {float32 : ℚ → ℚ} (htorch : torch.Documented float32)
    {window grid : List (List ℚ)} {length features height width : ℕ}
    (hwindow : Tensor.Rectangular window length features)
    (hgrid : Tensor.Rectangular grid height width) :
    ¬SameTensors torch window grid ∧ ¬SameSignals torch window grid := by
  obtain ⟨temporal, htemporal, -, -⟩ := htorch.tensor hwindow
  obtain ⟨depth, hdepth, -, -⟩ := htorch.tensor hgrid
  exact ⟨not_sameTensors htemporal hdepth, not_sameSignals htorch htemporal hdepth⟩

/-! ### One window and one grid -/

/-- Torch on numbers that single precision holds exactly. -/
def exactTorch : Torch where
  tensor
    | [] => .ok ⟨[0], [], rfl⟩
    | row :: rows =>
      if h : Tensor.Rectangular (row :: rows) (rows.length + 1) row.length then
        .ok (.ofRows _ _ _ h)
      else
        .error (valueError ("expected sequence of length " ++ toString row.length ++ " at dim 1"))
  item t := match t.entries with
    | [x] => .ok x
    | xs => .error ⟨.runtimeError, "a Tensor with " ++ toString xs.length ++
        " elements cannot be converted to Scalar"⟩
  float t := match t.entries with
    | [x] => .ok x
    | _ => .error (valueError "only one element tensors can be converted to Python scalars")

theorem exactTorch_documented : exactTorch.Documented id where
  tensor {rows height width} h := by
    cases rows with
    | nil =>
      obtain ⟨rfl, -⟩ := h
      exact ⟨_, rfl, rfl, rfl⟩
    | cons row rows =>
      obtain ⟨rfl, hwidth⟩ := h
      obtain rfl := hwidth row (List.mem_cons_self ..)
      exact ⟨.ofRows _ _ _ ⟨rfl, hwidth⟩, dif_pos ⟨rfl, hwidth⟩, (List.map_id _).symm,
        (if_neg (Nat.succ_ne_zero _)).symm⟩
  item {t x} h := by
    unfold exactTorch
    simp only [h]
  float {t x} h := by
    unfold exactTorch
    simp only [h]

theorem worker_never_agrees_small :
    ¬SameTensors exactTorch [[1, 2]] [[3]] ∧ ¬SameSignals exactTorch [[1, 2]] [[3]] := by
  have hwindow : Tensor.Rectangular ([[1, 2]] : List (List ℚ)) 1 2 := by decide
  have hgrid : Tensor.Rectangular ([[3]] : List (List ℚ)) 1 1 := by decide
  exact worker_never_agrees exactTorch_documented hwindow hgrid

/-- The dimension check of `nn.BatchNorm2d`, and nothing else. -/
def batchNormNet : Net where
  training := true
  forward _ _ depthImage :=
    if depthImage.rank = 4 then .ok (.ofSignal ⟨1 / 2, 0, 1 / 2⟩)
    else .error (valueError ("expected 4D input (got " ++ toString depthImage.rank ++ "D input)"))

theorem worker_agrees_false :
    ¬(SameTensors exactTorch [[1, 2]] [[3]] ∧ SameSignals exactTorch [[1, 2]] [[3]]) := by
  rintro ⟨-, h⟩
  have hspread : (evaluateSpread exactTorch batchNormNet ⟨[[1, 2]]⟩ ⟨[[3]]⟩).1 =
      .ok ⟨1 / 2, 0, 1 / 2⟩ := rfl
  have hworker : evaluate exactTorch (loadModel batchNormNet) [[1, 2]] [[3]] =
      .error (valueError "expected 4D input (got 3D input)") := rfl
  rw [(h batchNormNet _).mpr hspread] at hworker
  cases hworker

end BimodalArbitrage.Ml
