import Mathlib.Algebra.Order.Field.Rat
import Mathlib.Tactic.NormNum

/-!
# Samples and producer-backed streams (`rust/core/src/audio/mod.rs`)

`Pcm F` is the sample arithmetic the controller uses: it only adds, scales and clamps samples, and
the laws are those the finite normalized values of the source satisfy at zero. `ℚ` is the exact
instance.

`PcmStreamReader S F` is the trait of the same name over a state type `S`. A reader is fed by a
producer on another thread, so its answers are not a function of the calls made on it: a state `S`
that carries the answers still to come stands for any producer. The provided methods are the
trait's defaults. `render` receives the caller's buffer and returns it as the reader left it.
-/

namespace RptAdvanced.Audio

/-- Sample arithmetic of the audio path. -/
class Pcm (F : Type) extends Zero F, One F, Add F, Sub F, Mul F where
  /-- `a < b` on samples and gains. -/
  lt : F → F → Bool
  /-- `clamp(-1.0, 1.0)`. -/
  clamp : F → F
  /-- `1.0 / 480.0`: the duck ramp of one sample. -/
  duckRamp : F
  /-- `1.0 / 4800.0`: the recovery ramp of one sample. -/
  riseRamp : F
  zero_add : ∀ a : F, 0 + a = a
  add_zero : ∀ a : F, a + 0 = a
  zero_mul : ∀ g : F, (0 : F) * g = 0
  clamp_zero : clamp 0 = 0

instance : Pcm ℚ where
  lt a b := decide (a < b)
  clamp a := max (-1) (min a 1)
  duckRamp := 1 / 480
  riseRamp := 1 / 4800
  zero_add a := Rat.zero_add a
  add_zero a := Rat.add_zero a
  zero_mul g := Rat.zero_mul g
  clamp_zero := by norm_num

inductive PcmRead
  /-- Samples written to the output's start. -/
  | samples (count : Nat)
  /-- Samples written, and the producer has no further output. -/
  | finalSamples (count : Nat)
  /-- Nothing ready yet. -/
  | pending
  /-- The producer completed and its ring is drained. -/
  | finished
  /-- The producer or its ring failed. -/
  | failed
  deriving DecidableEq, Repr

/-- The samples a read reports. -/
def PcmRead.count : PcmRead → Nat
  | .samples n | .finalSamples n => n
  | .pending | .finished | .failed => 0

/-- Selection of a producer-rendered Morse replacement. -/
inductive MorseSwitch
  | selected
  | pending
  | unavailable
  deriving DecidableEq, Repr

/-- Reads already converted native PCM. -/
class PcmStreamReader (S : Type) (F : outParam Type) where
  start : S → S := id
  rewind : S → S := start
  deferBeforeOutput : S → Bool × S := fun s => (false, s)
  render : S → List F → PcmRead × List F × S
  selectMorseFallback : S → MorseSwitch × S := fun s => (.unavailable, s)
  cancel : S → S := id

/-- Readers that report no samples leave the output as it was. -/
def SilentReaders (S : Type) {F : Type} [PcmStreamReader S F] : Prop :=
  ∀ (s : S) (out : List F), (PcmStreamReader.render s out).1.count = 0 →
    (PcmStreamReader.render s out).2.1 = out

/-- Readers that a deferral left without an attempt say so when they are deferred again. -/
def SteadyReaders (S : Type) {F : Type} [PcmStreamReader S F] : Prop :=
  ∀ s : S, (PcmStreamReader.deferBeforeOutput s).1 = true →
    (PcmStreamReader.deferBeforeOutput (PcmStreamReader.deferBeforeOutput s).2).1 = true

/-! ## A reader in memory -/

/-- `TestPcmStream`: the reader of the source's own tests, over prepared sample lists. -/
structure TestPcmStream (F : Type) where
  primary : List F
  fallback : List F
  offset : Nat
  useFallback : Bool

namespace TestPcmStream

variable {F : Type}

def source (s : TestPcmStream F) : List F := if s.useFallback then s.fallback else s.primary

def render (s : TestPcmStream F) (out : List F) : PcmRead × List F × TestPcmStream F :=
  let count := min out.length (s.source.length - s.offset)
  let read : PcmRead :=
    if count = 0 then .finished
    else if s.offset + count = s.source.length then .finalSamples count
    else .samples count
  (read, (s.source.drop s.offset).take count ++ out.drop count,
    { s with offset := s.offset + count })

instance : PcmStreamReader (TestPcmStream F) F where
  start s := { s with offset := 0, useFallback := false }
  render
  selectMorseFallback s :=
    (if s.fallback.isEmpty then .unavailable else .selected,
      { s with useFallback := true, offset := 0 })

theorem silentReaders : SilentReaders (TestPcmStream F) := by
  intro s out h
  have hcount : min out.length (s.source.length - s.offset) = 0 := by
    change PcmRead.count (render s out).1 = 0 at h
    unfold render at h
    dsimp only at h
    split at h
    · assumption
    · split at h <;> exact h
  change (render s out).2.1 = out
  unfold render
  simp [hcount]

theorem steadyReaders : SteadyReaders (TestPcmStream F) := by
  intro s h
  cases h

end TestPcmStream

end RptAdvanced.Audio
