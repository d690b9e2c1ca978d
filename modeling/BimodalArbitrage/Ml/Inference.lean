import BimodalArbitrage.Schemas
import BimodalArbitrage.Tensor.Basic

/-!
# In-process inference (`backend/ml/inference.py`)
-/

namespace BimodalArbitrage.Ml

/-- What the program takes from torch. -/
structure Torch where
  /-- `torch.tensor(rows, dtype=torch.float32)`. -/
  tensor : List (List ℚ) → Except PyError (Tensor ℚ)
  /-- `t.item()`. -/
  item : Tensor ℚ → Except PyError ℚ
  /-- `float(t)`. -/
  float : Tensor ℚ → Except PyError ℚ

/-- A nested list becomes the tensor of its entries, rounded; only a tensor of one entry
becomes a number. A list of no rows has one dimension, whatever its width. -/
structure Torch.Documented (torch : Torch) (float32 : ℚ → ℚ) : Prop where
  tensor : ∀ {rows height width}, Tensor.Rectangular rows height width →
    ∃ t, torch.tensor rows = .ok t ∧ t.entries = rows.flatten.map float32 ∧
      t.shape = if height = 0 then [0] else [height, width]
  item : ∀ {t x}, t.entries = [x] → torch.item t = .ok x
  float : ∀ {t x}, t.entries = [x] → torch.float t = .ok x

/-- The dict that the model returns. -/
structure Outputs where
  executionProbability : Tensor ℚ
  expectedAlphaBps : Tensor ℚ
  adverseHazard : Tensor ℚ

/-- Three numbers, each in a tensor of shape `[1, 1]`. -/
def Outputs.ofSignal (signal : ArbitrageSignal ℚ) : Outputs where
  executionProbability := .single 2 signal.executionProbability
  expectedAlphaBps := .single 2 signal.expectedAlphaBps
  adverseHazard := .single 2 signal.adverseHazard

/-- A model, in training or in evaluation mode. -/
structure Net where
  training : Bool
  forward : Bool → Tensor ℚ → Tensor ℚ → Except PyError Outputs

namespace Net

/-- `model.train(mode)`. -/
def train (model : Net) (mode : Bool) : Net := { model with training := mode }

def eval (model : Net) : Net := model.train false

/-- `model(temporal_tensor, depth_image)`. -/
def call (model : Net) (temporalTensor depthImage : Tensor ℚ) : Except PyError Outputs :=
  model.forward model.training temporalTensor depthImage

end Net

variable (torch : Torch)

/-- `[T, F]` rows become a tensor of shape `[1, T, F]`. -/
def temporalToTensor (temporal : TemporalFeatures) : Except PyError (Tensor ℚ) := do
  let window ← torch.tensor temporal.window
  pure window.unsqueeze

/-- `[H, W]` rows become a tensor of shape `[1, 1, H, W]`. -/
def depthToTensor (depth : DepthMatrix) : Except PyError (Tensor ℚ) := do
  let grid ← torch.tensor depth.grid
  pure grid.unsqueeze.unsqueeze

/-- What `evaluate_spread` passes to the model. -/
def spreadTensors (temporal : TemporalFeatures) (depth : DepthMatrix) :
    Except PyError (Tensor ℚ × Tensor ℚ) := do
  let temporalTensor ← temporalToTensor torch temporal
  let depthTensor ← depthToTensor torch depth
  pure (temporalTensor, depthTensor)

/-- The signal, and the model as it is left. -/
def evaluateSpread (model : Net) (temporal : TemporalFeatures) (depth : DepthMatrix) :
    Except PyError (ArbitrageSignal ℚ) × Net :=
  let wasTraining := model.training
  let model := model.eval
  let signal := do
    let tensors ← spreadTensors torch temporal depth
    let outputs ← model.call tensors.1 tensors.2
    let executionProbability ← torch.item outputs.executionProbability
    let expectedAlphaBps ← torch.item outputs.expectedAlphaBps
    let adverseHazard ← torch.item outputs.adverseHazard
    pure ⟨executionProbability, expectedAlphaBps, adverseHazard⟩
  (signal, model.train wasTraining)

section
variable {torch : Torch} {window grid : List (List ℚ)} {temporal depth : Tensor ℚ}

theorem spreadTensors_eq (hwindow : torch.tensor window = .ok temporal)
    (hgrid : torch.tensor grid = .ok depth) :
    spreadTensors torch ⟨window⟩ ⟨grid⟩ =
      .ok (temporal.unsqueeze, depth.unsqueeze.unsqueeze) := by
  rw [spreadTensors, temporalToTensor, depthToTensor, hwindow, hgrid]
  rfl

theorem evaluateSpread_ofSignal {float32 : ℚ → ℚ} (htorch : torch.Documented float32)
    (hwindow : torch.tensor window = .ok temporal) (hgrid : torch.tensor grid = .ok depth)
    {model : Net} {signal : ArbitrageSignal ℚ}
    (hforward : model.forward false temporal.unsqueeze depth.unsqueeze.unsqueeze =
      .ok (.ofSignal signal)) :
    (evaluateSpread torch model ⟨window⟩ ⟨grid⟩).1 = .ok signal := by
  have hcall : model.eval.call temporal.unsqueeze depth.unsqueeze.unsqueeze =
      .ok (.ofSignal signal) := hforward
  have hitem (x : ℚ) : torch.item (.single 2 x) = .ok x := htorch.item rfl
  rw [evaluateSpread, spreadTensors_eq hwindow hgrid, ok_bind, hcall, ok_bind, Outputs.ofSignal,
    hitem, hitem, hitem]
  rfl

end
end BimodalArbitrage.Ml
