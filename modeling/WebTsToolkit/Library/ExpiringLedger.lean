import Mathlib.Data.List.Nodup
import Mathlib.Order.Lattice

set_option autoImplicit false

namespace WebTsToolkit.Library

/-- Deadlines under keys, as a clock sees them: an entry is live before its deadline. -/
abbrev Ledger (κ τ : Type) := κ → Option τ

namespace Ledger

variable {κ τ : Type} [LinearOrder τ]

/-- No entry that is live is lost or given another deadline. -/
def KeepsLive (now : τ) (before after : Ledger κ τ) : Prop :=
  ∀ key deadline, before key = some deadline → now < deadline → after key = some deadline

/-- A reservation under a key without a live entry. -/
structure Reserves (now : τ) (key : κ) (deadline : τ) (before after : Ledger κ τ) : Prop where
  ahead : now < deadline
  free : ∀ other, before key = some other → other ≤ now
  recorded : after key = some deadline
  keeps : KeepsLive now before after

/-- A key cannot be reserved up to a deadline: it is on the ledger, or the deadline is over. -/
def Spent (now : τ) (ledger : Ledger κ τ) (key : κ) (deadline : τ) : Prop :=
  deadline ≤ now ∨ ledger key = some deadline

variable {now later : τ} {before after ledger : Ledger κ τ} {key : κ} {deadline : τ}

theorem Spent.keeps (spent : Spent now before key deadline) (forward : now ≤ later)
    (keeps : KeepsLive later before after) : Spent later after key deadline := by
  rcases spent with past | listed
  · exact Or.inl (le_trans past forward)
  · by_cases past : deadline ≤ later
    · exact Or.inl past
    · exact Or.inr (keeps key deadline listed (not_le.mp past))

theorem Spent.not_reserves (spent : Spent now before key deadline) (forward : now ≤ later) :
    ¬Reserves later key deadline before after := by
  intro reserves
  rcases spent with past | listed
  · exact absurd (le_trans past forward) (not_le.mpr reserves.ahead)
  · exact absurd (reserves.free deadline listed) (not_le.mpr reserves.ahead)

/-- All reservations of a history are spent, and none happened twice. -/
structure Exact (now : τ) (ledger : Ledger κ τ) (history : List (κ × τ)) : Prop where
  distinct : history.Nodup
  spent : ∀ entry ∈ history, Spent now ledger entry.1 entry.2

theorem Exact.start (now : τ) (ledger : Ledger κ τ) : Exact now ledger [] where
  distinct := List.nodup_nil
  spent := by
    intro entry member
    cases member

/-- Time passes, and entries that are over may go. -/
theorem Exact.keeps {history : List (κ × τ)} (exact : Exact now before history)
    (forward : now ≤ later) (keeps : KeepsLive later before after) :
    Exact later after history where
  distinct := exact.distinct
  spent := by
    intro entry member
    exact (exact.spent entry member).keeps forward keeps

theorem Exact.reserves {history : List (κ × τ)} (exact : Exact now before history)
    (forward : now ≤ later) (reserves : Reserves later key deadline before after) :
    Exact later after (history ++ [(key, deadline)]) where
  distinct := by
    have fresh : (key, deadline) ∉ history := by
      intro member
      exact (exact.spent (key, deadline) member).not_reserves forward reserves
    exact List.nodup_append.mpr ⟨exact.distinct, List.nodup_singleton _, by
      intro entry member other last same
      rw [List.mem_singleton.mp last] at same
      exact fresh (same ▸ member)⟩
  spent := by
    intro entry member
    rcases List.mem_append.mp member with member | last
    · exact (exact.spent entry member).keeps forward reserves.keeps
    · rw [List.mem_singleton.mp last]
      exact Or.inr reserves.recorded

end Ledger

end WebTsToolkit.Library
