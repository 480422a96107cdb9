import Mathlib.Tactic.Common

/-!
# A fence between one requester and one server

The requester posts words, the server looks at the latest one from time to time, acts on what it
has seen and acknowledges it. Words may be overwritten before the server sees them. Under an *open*
word the server works for others; any other word fences it, and is acknowledged once the server has
acted on it. An *urgent* word may be posted at any time, every other only after the word before it
was acknowledged.

`Fence` is the part of both parties' states this depends on: the word the server `held`s, and
whether it is `busy` on it. `Sound` is what holds between the words as long as no word is posted
again while the server still knows it (`Fresh`).

Rules:
* `Sound.post`, `Sound.load`, `Sound.release`, `Sound.engage`, `Sound.see`, `Sound.ack`: each move
  of either party keeps `Sound`.
* `Shut`: neither the posted word nor the one the server holds is open. `Sound.shut`: so it is
  behind an acknowledged fence, and `Sound.shut_engage` while a fence is acted on.
-/

namespace RptAdvanced.Lib

/-- The words that a requester and a server have exchanged. -/
structure Fence (ω : Type*) where
  request : ω
  acknowledged : ω
  /-- The last word the server has acted on. -/
  seen : ω
  /-- The word the server has looked up and not let go. -/
  held : Option ω
  /-- The server is acting on the word it holds. -/
  busy : Bool

namespace Fence

variable {ω : Type*} {isOpen urgent : ω → Prop} {f : Fence ω} {w r : ω}

/-- A word that the server has no memory of. -/
def Fresh (f : Fence ω) (w : ω) : Prop :=
  w ≠ f.acknowledged ∧ w ≠ f.seen ∧ f.held ≠ some w

instance [DecidableEq ω] (f : Fence ω) (w : ω) : Decidable (f.Fresh w) :=
  inferInstanceAs (Decidable (_ ∧ _ ∧ _))

/-- The posted word is a fence and is acknowledged. -/
def Acked (isOpen : ω → Prop) (f : Fence ω) : Prop :=
  f.acknowledged = f.request ∧ ¬ isOpen f.request

/-- Neither side has an open word. -/
def Shut (isOpen : ω → Prop) (f : Fence ω) : Prop :=
  ¬ isOpen f.request ∧ ∀ r, f.held = some r → ¬ isOpen r

/-- What holds between the words. -/
structure Sound (isOpen urgent : ω → Prop) (f : Fence ω) : Prop where
  acked : f.Acked isOpen →
    f.seen = f.request ∧ f.busy = false ∧ ∀ r, f.held = some r → r = f.request
  paced : ¬ urgent f.request → ∀ r, f.held = some r →
    r = f.request ∨ (r = f.seen ∧ f.busy = false ∧ ¬ isOpen r)
  working : f.busy = true → ∃ r, f.held = some r ∧ (isOpen r ↔ r = f.seen)
  synced : ¬ isOpen f.seen → f.acknowledged = f.seen

section

variable (h : f.Sound isOpen urgent)
include h

/-- The requester posts a word that the server has no memory of. -/
theorem Sound.post (hfresh : f.Fresh w) (hpaced : urgent w ∨ f.Acked isOpen) :
    { f with request := w }.Sound isOpen urgent := by
  refine ⟨fun hacked => absurd hacked.1.symm hfresh.1, fun hcalm r hheld => ?_, h.working, h.synced⟩
  obtain hurgent | hacked := hpaced
  · exact absurd hurgent hcalm
  · obtain ⟨hseen, hidle, hlast⟩ := h.acked hacked
    have hr : r = f.request := hlast r hheld
    exact .inr ⟨hr.trans hseen.symm, hidle, hr ▸ hacked.2⟩

/-- The server looks the posted word up. -/
theorem Sound.load : { f with held := some f.request, busy := false }.Sound isOpen urgent := by
  refine ⟨fun hacked => ⟨(h.acked hacked).1, rfl, fun r hr => ?_⟩, fun _ r hr => ?_,
    fun hbusy => ?_, h.synced⟩
  · cases hr
    rfl
  · cases hr
    exact .inl rfl
  · cases hbusy

/-- The server has done what it was to do and lets its word go. -/
theorem Sound.release : { f with held := none, busy := false }.Sound isOpen urgent := by
  refine ⟨fun hacked => ⟨(h.acked hacked).1, rfl, fun r hr => ?_⟩, fun _ r hr => ?_,
    fun hbusy => ?_, h.synced⟩
  · cases hr
  · cases hr
  · cases hbusy

/-- The server starts to act: on a fence it has not seen, or for others under an open word. -/
theorem Sound.engage (hheld : f.held = some r) (hcause : isOpen r ↔ r = f.seen) :
    { f with held := some r, busy := true }.Sound isOpen urgent := by
  refine ⟨fun hacked => ?_, fun hcalm q hq => ?_, fun _ => ⟨r, rfl, hcause⟩, h.synced⟩
  · obtain ⟨hseen, -, hlast⟩ := h.acked hacked
    have hr : r = f.request := hlast r hheld
    exact absurd (hcause.mpr (hr.trans hseen.symm)) (hr ▸ hacked.2)
  · cases hq
    obtain hr | ⟨hseen, -, hclosed⟩ := h.paced hcalm r hheld
    · exact .inl hr
    · exact absurd (hcause.mpr hseen) hclosed

/-- The server takes note of an open word. -/
theorem Sound.see (hheld : f.held = some r) (hopen : isOpen r) :
    { f with seen := r, held := some r, busy := false }.Sound isOpen urgent := by
  refine ⟨fun hacked => ?_, fun hcalm q hq => ?_, fun hbusy => ?_, fun hclosed => ?_⟩
  · obtain ⟨-, -, hlast⟩ := h.acked hacked
    exact absurd (hlast r hheld ▸ hopen) hacked.2
  · cases hq
    obtain hr | ⟨-, -, hclosed⟩ := h.paced hcalm r hheld
    · exact .inl hr
    · exact absurd hopen hclosed
  · cases hbusy
  · exact absurd hopen hclosed

end

/-- The server has acted on a fence and acknowledges it. -/
theorem Sound.ack (hclosed : ¬ isOpen r) :
    { f with acknowledged := r, seen := r, held := some r, busy := false }.Sound
      isOpen urgent := by
  refine ⟨fun hacked => ⟨hacked.1, rfl, fun q hq => ?_⟩, fun _ q hq => ?_, fun hbusy => ?_,
    fun _ => rfl⟩
  · cases hq
    exact hacked.1
  · cases hq
    exact .inr ⟨rfl, rfl, hclosed⟩
  · cases hbusy

/-- Behind an acknowledged fence neither side has an open word. -/
theorem Sound.shut (h : f.Sound isOpen urgent) (hacked : f.Acked isOpen) : f.Shut isOpen :=
  ⟨hacked.2, fun r hheld => (h.acked hacked).2.2 r hheld ▸ hacked.2⟩

/-- While the server acts on a fence that it has not seen before, neither side has an open word:
an open one is posted only once the fence is acknowledged. -/
theorem Sound.shut_engage (h : f.Sound isOpen urgent) (hurgent : ∀ w, isOpen w → ¬ urgent w)
    (hheld : f.held = some r) (hclosed : ¬ isOpen r) (hbusy : f.busy = true) : f.Shut isOpen := by
  refine ⟨fun hopen => ?_, fun q hq => ?_⟩
  · obtain hr | ⟨-, hidle, -⟩ := h.paced (hurgent _ hopen) r hheld
    · exact hclosed (hr ▸ hopen)
    · rw [hbusy] at hidle
      cases hidle
  · cases hheld.symm.trans hq
    exact hclosed

end Fence

end RptAdvanced.Lib
