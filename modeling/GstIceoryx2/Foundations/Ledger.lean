import Mathlib.Data.List.Nodup
import Mathlib.Logic.Function.Basic

/-!
# Tokens registered under reusable keys

A ledger issues tokens, each to a holder of its own, and registers the token under
the holder's key. Settling a holder takes whatever token is registered under its
key. Keys are reused: a free key may be given to a later token while an earlier
holder of it is still around, and when that one is settled again it takes a token
that is not its own.

Ownership is linear when every token was taken by its own holder. It is lost
exactly when a holder that was settled before is settled while a token is
registered under its key (`linear_settle_iff`), and as long as it holds, every
holder that is not settled yet finds its own token registered (`Linear.kept`).
-/

set_option autoImplicit false

namespace GstIceoryx2.Foundations

/-- What is found in an updated table: the new entry, or an old one elsewhere. -/
theorem lookup_update {Key Value : Type*} [DecidableEq Key] {table : Key → Option Value}
    {key key' : Key} {entry : Option Value} {value : Value}
    (found : Function.update table key entry key' = some value) :
    key' = key ∧ entry = some value ∨ key' ≠ key ∧ table key' = some value := by
  by_cases same : key' = key
  · subst same
    rw [Function.update_self] at found
    exact .inl ⟨rfl, found⟩
  · rw [Function.update_of_ne same] at found
    exact .inr ⟨same, found⟩

variable {Key : Type*}

/-- A holder: its key, and whether it has been settled. -/
structure Holder (Key : Type*) where
  key : Key
  settled : Bool

/-- A token that was taken, and the holder that took it. -/
structure Settlement where
  token : Nat
  holder : Nat

/-- The tokens issued, the tokens registered, the holders there are, and the
settlements so far. A token and the holder it was issued to share their number. -/
structure Ledger (Key : Type*) where
  issued : Nat
  registry : Key → Option Nat
  holders : Nat → Option (Holder Key)
  settlements : List Settlement

namespace Ledger

/-- Nothing issued. -/
def empty : Ledger Key where
  issued := 0
  registry := fun _ => none
  holders := fun _ => none
  settlements := []

variable [DecidableEq Key]

/-- Issue a token under a key. -/
def issue (ledger : Ledger Key) (key : Key) : Ledger Key where
  issued := ledger.issued + 1
  registry := Function.update ledger.registry key (some ledger.issued)
  holders := Function.update ledger.holders ledger.issued (some ⟨key, false⟩)
  settlements := ledger.settlements

/-- Settle a holder, which stays or leaves: it takes the token under its key. -/
def settle (ledger : Ledger Key) (holder : Nat) (held : Holder Key) (stays : Bool) :
    Ledger Key where
  issued := ledger.issued
  registry := Function.update ledger.registry held.key none
  holders := Function.update ledger.holders holder
    (if stays then some { held with settled := true } else none)
  settlements := ledger.settlements ++
    (ledger.registry held.key).toList.map fun token => ⟨token, holder⟩

/-- What a ledger goes through. Tokens are issued under free keys. -/
inductive Step (ledger : Ledger Key) : Ledger Key → Prop where
  | idle : Step ledger ledger
  | issue {key : Key} (free : ledger.registry key = none) : Step ledger (ledger.issue key)
  | settle {holder : Nat} {held : Holder Key} (stays : Bool)
      (live : ledger.holders holder = some held) : Step ledger (ledger.settle holder held stays)

/-! ## The books balance -/

/-- What holds however the steps go: a registered token's holder is there and not
settled, no token is taken twice, and every token is registered or taken. -/
structure Accounted (ledger : Ledger Key) : Prop where
  registered : ∀ key token, ledger.registry key = some token →
    ledger.holders token = some ⟨key, false⟩
  live : ∀ holder held, ledger.holders holder = some held → holder < ledger.issued
  untaken : ∀ key token, ledger.registry key = some token →
    ∀ settlement ∈ ledger.settlements, settlement.token ≠ token
  once : (ledger.settlements.map Settlement.token).Nodup
  below : ∀ settlement ∈ ledger.settlements,
    settlement.token < ledger.issued ∧ settlement.holder < ledger.issued
  all : ∀ token < ledger.issued, (∃ key, ledger.registry key = some token) ∨
    ∃ settlement ∈ ledger.settlements, settlement.token = token
  served : ∀ settlement ∈ ledger.settlements, ∀ held,
    ledger.holders settlement.holder = some held → held.settled = true

variable {ledger next : Ledger Key}

omit [DecidableEq Key] in
theorem accounted_empty : (empty : Ledger Key).Accounted where
  registered := by
    intro key token registered
    cases registered
  live := by
    intro holder held live
    cases live
  untaken := by
    intro key token registered
    cases registered
  once := List.nodup_nil
  below := by
    intro settlement taken
    cases taken
  all := by
    intro token issued
    cases issued
  served := by
    intro settlement taken
    cases taken

omit [DecidableEq Key] in
/-- A token is registered under one key. -/
theorem Accounted.key_unique (accounted : ledger.Accounted) {key key' : Key} {token : Nat}
    (registered : ledger.registry key = some token)
    (registered' : ledger.registry key' = some token) : key = key' := by
  have held := accounted.registered key token registered
  rw [accounted.registered key' token registered'] at held
  exact (Holder.mk.inj (Option.some.inj held)).1.symm

theorem Accounted.issue (accounted : ledger.Accounted) {key : Key}
    (free : ledger.registry key = none) : (ledger.issue key).Accounted where
  registered := by
    intro key' token registered
    rcases lookup_update registered with ⟨rfl, new⟩ | ⟨apart, before⟩
    · rw [← Option.some.inj new]
      exact Function.update_self ..
    · have held := accounted.registered key' token before
      have older := accounted.live token _ held
      simp only [Ledger.issue, Function.update_of_ne (Nat.ne_of_lt older), held]
  live := by
    intro holder held live
    rcases lookup_update live with ⟨rfl, -⟩ | ⟨apart, before⟩
    · exact Nat.lt_succ_self _
    · exact Nat.lt_succ_of_lt (accounted.live holder held before)
  untaken := by
    intro key' token registered settlement taken
    rcases lookup_update registered with ⟨rfl, new⟩ | ⟨apart, before⟩
    · rw [← Option.some.inj new]
      exact Nat.ne_of_lt (accounted.below settlement taken).1
    · exact accounted.untaken key' token before settlement taken
  once := accounted.once
  below := by
    intro settlement taken
    obtain ⟨token, holder⟩ := accounted.below settlement taken
    exact ⟨Nat.lt_succ_of_lt token, Nat.lt_succ_of_lt holder⟩
  all := by
    intro token issued
    rcases Nat.lt_succ_iff_lt_or_eq.mp issued with older | rfl
    · rcases accounted.all token older with ⟨key', registered⟩ | taken
      · have apart : key' ≠ key := by
          rintro rfl
          rw [free] at registered
          cases registered
        refine .inl ⟨key', ?_⟩
        simp only [Ledger.issue, Function.update_of_ne apart, registered]
      · exact .inr taken
    · exact .inl ⟨key, Function.update_self ..⟩
  served := by
    intro settlement taken held live
    have older := (accounted.below settlement taken).2
    simp only [Ledger.issue, Function.update_of_ne (Nat.ne_of_lt older)] at live
    exact accounted.served settlement taken held live

/-- What settling adds to the settlements: the token under the key, if any. -/
theorem mem_settlements_settle {holder : Nat} {held : Holder Key} {stays : Bool}
    {settlement : Settlement} :
    settlement ∈ (ledger.settle holder held stays).settlements ↔
      settlement ∈ ledger.settlements ∨
        ledger.registry held.key = some settlement.token ∧ settlement.holder = holder := by
  simp only [settle, List.mem_append, List.mem_map, Option.mem_toList]
  constructor
  · rintro (earlier | ⟨token, registered, rfl⟩)
    · exact .inl earlier
    · exact .inr ⟨registered, rfl⟩
  · rintro (earlier | ⟨registered, rfl⟩)
    · exact .inl earlier
    · exact .inr ⟨settlement.token, registered, rfl⟩

/-- A token that settling leaves registered was registered before, under another
key. -/
theorem registry_settle {holder : Nat} {held : Holder Key} {stays : Bool} {key : Key} {token : Nat}
    (registered : (ledger.settle holder held stays).registry key = some token) :
    key ≠ held.key ∧ ledger.registry key = some token := by
  rcases lookup_update registered with ⟨-, removed⟩ | before
  · cases removed
  · exact before

/-- A holder that settling leaves there was there before, or has been settled. -/
theorem holders_settle {holder other : Nat} {held held' : Holder Key} {stays : Bool}
    (live : (ledger.settle holder held stays).holders other = some held') :
    other ≠ holder ∧ ledger.holders other = some held' ∨
      other = holder ∧ held' = { held with settled := true } := by
  rcases lookup_update live with ⟨rfl, stayed⟩ | before
  · split_ifs at stayed
    exact .inr ⟨rfl, (Option.some.inj stayed).symm⟩
  · exact .inl before

theorem Accounted.settle (accounted : ledger.Accounted) {holder : Nat} {held : Holder Key}
    (stays : Bool) (live : ledger.holders holder = some held) :
    (ledger.settle holder held stays).Accounted where
  registered := by
    intro key token registered
    obtain ⟨apart, registered⟩ := registry_settle registered
    have there := accounted.registered key token registered
    have other : token ≠ holder := by
      rintro rfl
      rw [live] at there
      exact apart (congrArg Holder.key (Option.some.inj there)).symm
    simp only [Ledger.settle, Function.update_of_ne other, there]
  live := by
    intro other held' live'
    rcases holders_settle live' with ⟨-, before⟩ | ⟨rfl, -⟩
    · exact accounted.live other held' before
    · exact accounted.live other held live
  untaken := by
    intro key token registered settlement taken
    obtain ⟨apart, registered⟩ := registry_settle registered
    rcases mem_settlements_settle.mp taken with earlier | ⟨registered', -⟩
    · exact accounted.untaken key token registered settlement earlier
    · rintro rfl
      exact apart (accounted.key_unique registered registered')
  once := by
    simp only [Ledger.settle, List.map_append, List.map_map]
    cases registered : ledger.registry held.key with
    | none => simpa using accounted.once
    | some token =>
        refine List.nodup_append.mpr ⟨accounted.once, by simp, ?_⟩
        rintro earlier taken _ last rfl
        obtain ⟨settlement, before, rfl⟩ := List.mem_map.mp taken
        refine accounted.untaken held.key token registered settlement before ?_
        simpa using last
  below := by
    intro settlement taken
    rcases mem_settlements_settle.mp taken with earlier | ⟨registered, rfl⟩
    · exact accounted.below settlement earlier
    · exact ⟨accounted.live _ _ (accounted.registered _ _ registered), accounted.live _ _ live⟩
  all := by
    intro token issued
    rcases accounted.all token issued with ⟨key, registered⟩ | ⟨settlement, taken, rfl⟩
    · by_cases same : key = held.key
      · refine .inr ⟨⟨token, holder⟩, mem_settlements_settle.mpr (.inr ⟨?_, rfl⟩), rfl⟩
        exact same ▸ registered
      · refine .inl ⟨key, ?_⟩
        simp only [Ledger.settle, Function.update_of_ne same, registered]
    · exact .inr ⟨settlement, mem_settlements_settle.mpr (.inl taken), rfl⟩
  served := by
    intro settlement taken held' live'
    rcases holders_settle live' with ⟨apart, before⟩ | ⟨-, rfl⟩
    · rcases mem_settlements_settle.mp taken with earlier | ⟨-, same⟩
      · exact accounted.served settlement earlier held' before
      · exact absurd same apart
    · rfl

/-- **The books balance after every step.** -/
theorem Accounted.step (accounted : ledger.Accounted) (taken : Step ledger next) :
    next.Accounted := by
  cases taken with
  | idle => exact accounted
  | issue free => exact accounted.issue free
  | settle stays live => exact accounted.settle stays live

/-! ## Linear ownership -/

/-- Every token that was taken was taken by the holder it was issued to. -/
def Linear (ledger : Ledger Key) : Prop :=
  ∀ settlement ∈ ledger.settlements, settlement.holder = settlement.token

omit [DecidableEq Key] in
/-- **While ownership is linear, a holder that is not settled finds its own token.** -/
theorem Linear.kept (linear : ledger.Linear) (accounted : ledger.Accounted) {holder : Nat}
    {held : Holder Key} (live : ledger.holders holder = some held)
    (unsettled : held.settled = false) : ledger.registry held.key = some holder := by
  rcases accounted.all holder (accounted.live holder held live) with
    ⟨key, registered⟩ | ⟨settlement, taken, rfl⟩
  · have there := accounted.registered key holder registered
    rw [live] at there
    rw [Option.some.inj there]
    exact registered
  · have settled := accounted.served settlement taken held (by rw [linear settlement taken, live])
    exact absurd (unsettled.symm.trans settled) Bool.false_ne_true

/-- **Settling keeps ownership linear exactly when a holder that was settled before
finds nothing under its key.** -/
theorem linear_settle_iff (accounted : ledger.Accounted) (linear : ledger.Linear) {holder : Nat}
    {held : Holder Key} {stays : Bool} (live : ledger.holders holder = some held) :
    (ledger.settle holder held stays).Linear ↔
      (held.settled = true → ledger.registry held.key = none) := by
  constructor
  · intro after settled
    cases registered : ledger.registry held.key with
    | none => rfl
    | some token =>
        have own : holder = token :=
          after ⟨token, holder⟩ (mem_settlements_settle.mpr (.inr ⟨registered, rfl⟩))
        have there := accounted.registered _ _ registered
        rw [← own, live] at there
        rw [Option.some.inj there] at settled
        cases settled
  · intro clear settlement taken
    rcases mem_settlements_settle.mp taken with earlier | ⟨registered, rfl⟩
    · exact linear settlement earlier
    · cases settled : held.settled with
      | true =>
          rw [clear settled] at registered
          cases registered
      | false =>
          rw [linear.kept accounted live settled] at registered
          exact Option.some.inj registered

/-- Ownership that was lost is not regained. -/
theorem Linear.of_step (taken : Step ledger next) (linear : next.Linear) : ledger.Linear := by
  cases taken with
  | idle => exact linear
  | issue free => exact linear
  | settle stays live =>
      intro settlement earlier
      exact linear settlement (mem_settlements_settle.mpr (.inl earlier))

end Ledger

end GstIceoryx2.Foundations
