import Xbench.Cloud.SkySql
import Xbench.Lib.Session

/-!
# The Allow List of a Database

How an address is put on the allow list of a database at SkySQL, and how the
program waits for it to be there.

The change takes its time, so the list is to be looked at again after every
nap. It is read once, before the first look, and every look is at what was read
then.

## Main definitions

* `AllowListApi`: The answers of the API, as time goes by.
* `Polls`: The naps and the reads of a call.
* `pollSnapshot`: The loop over what was read.
* `allowIp`: Putting an address on the list.
* `SeesChange`: The call returns if the address is there in time.

## Theorems

* `pollSnapshot_stale`: The loop naps as often as it may.
* `allowIp_of_listed`, `allowIp_of_stale`: What comes of a call.
* `seesChange_iff`: When the change is seen.
-/

namespace Xbench

namespace SkySql

open Session

/-- An entry of the list. -/
structure AllowedIp where
  ipAddress : String

/-- The answers of the API: to the request, and to a read after some naps. -/
structure AllowListApi where
  request : Except Exn Unit
  allowList : Nat → Except Exn (List AllowedIp)

/-- How often a call has napped and read the list. -/
structure Polls where
  naps : Nat
  reads : Nat

/-- `SkySQLAPIServerException`: its text is made of keyword arguments, which are not
    given here. -/
def skySQLAPIServerException : Exn :=
  ⟨.skySQLAPIServer, "HTTP error: None None"⟩

/-- `get_allow_list`. -/
def getAllowList (api : AllowListApi) : Session Polls Exn (List AllowedIp) :=
  fun s => (api.allowList s.naps, { s with reads := s.reads + 1 })

/-- `time.sleep`. -/
def nap : Session Polls Exn Unit :=
  fun s => (.ok (), { s with naps := s.naps + 1 })

/-- Is the address one of the list's? -/
def listed (ip : String) (allowedIps : List AllowedIp) : Bool :=
  allowedIps.any (fun allowedIp => allowedIp.ipAddress == ip)

/-- `while retries`, over what was read. -/
def pollSnapshot (ip : String) (allowedIps : List AllowedIp) : Nat → Session Polls Exn Unit
  | 0 => raise skySQLAPIServerException
  | retries + 1 =>
      if listed ip allowedIps then pure ()
      else do
        nap
        pollSnapshot ip allowedIps retries

/-- `allow_ip`. -/
def allowIp (maxApiCallPolls : Nat) (api : AllowListApi) (ip : String) :
    Session Polls Exn Unit := do
  Session.ofExcept api.request
  let allowedIps ← getAllowList api
  if listed ip allowedIps then pure ()
  else pollSnapshot ip allowedIps maxApiCallPolls

/-- An API that takes the request and has these lists, one after the other. -/
def serving (lists : Nat → List AllowedIp) : AllowListApi :=
  ⟨.ok (), fun i => .ok (lists i)⟩

/-- If the address first appears at one of the polls, the call returns, with one
    read for each poll at most; if at none, it raises. -/
structure SeesChange (maxApiCallPolls : Nat) (lists : Nat → List AllowedIp) (ip : String) :
    Prop where
  returns : ∀ k, k ≤ maxApiCallPolls → listed ip (lists k) = true →
    (∀ j, j < k → listed ip (lists j) = false) →
      ∃ s, allowIp maxApiCallPolls (serving lists) ip ⟨0, 0⟩ = (.ok (), s)
        ∧ s.reads ≤ maxApiCallPolls + 1
  raises : (∀ k, k ≤ maxApiCallPolls → listed ip (lists k) = false) →
    ∃ e s, allowIp maxApiCallPolls (serving lists) ip ⟨0, 0⟩ = (.error e, s)
      ∧ e.klass = .skySQLAPIServer

section Polling

variable (lists : Nat → List AllowedIp) (ip : String)

/-- Without the address in what was read, the loop naps as often as it may. -/
theorem pollSnapshot_stale (allowedIps : List AllowedIp) (h : listed ip allowedIps = false)
    (retries : Nat) (s : Polls) :
    pollSnapshot ip allowedIps retries s
      = (.error skySQLAPIServerException, ⟨s.naps + retries, s.reads⟩) := by
  induction retries generalizing s with
  | zero => rfl
  | succ retries ih =>
      have hfalse : ¬ listed ip allowedIps = true := by rw [h]; exact Bool.false_ne_true
      rw [pollSnapshot, if_neg hfalse, bind_of_ok nap s ⟨s.naps + 1, s.reads⟩ _ () rfl, ih]
      simp only [Nat.add_assoc, Nat.add_comm 1 retries]

/-- What comes of a call depends on the first list. -/
theorem allowIp_serving (maxApiCallPolls : Nat) :
    allowIp maxApiCallPolls (serving lists) ip ⟨0, 0⟩
      = (if listed ip (lists 0) then pure ()
          else pollSnapshot ip (lists 0) maxApiCallPolls : Session Polls Exn Unit) ⟨0, 1⟩ := by
  have hrequest : Session.ofExcept (serving lists).request (⟨0, 0⟩ : Polls)
      = (.ok (), ⟨0, 0⟩) := rfl
  have hread : getAllowList (serving lists) ⟨0, 0⟩ = (.ok (lists 0), ⟨0, 1⟩) := rfl
  unfold allowIp
  rw [bind_of_ok _ _ _ _ _ hrequest, bind_of_ok _ _ _ _ _ hread]

theorem allowIp_of_listed (maxApiCallPolls : Nat) (h : listed ip (lists 0) = true) :
    allowIp maxApiCallPolls (serving lists) ip ⟨0, 0⟩ = (.ok (), ⟨0, 1⟩) := by
  rw [allowIp_serving, if_pos h]
  rfl

theorem allowIp_of_stale (maxApiCallPolls : Nat) (h : listed ip (lists 0) = false) :
    allowIp maxApiCallPolls (serving lists) ip ⟨0, 0⟩
      = (.error skySQLAPIServerException, ⟨maxApiCallPolls, 1⟩) := by
  have hfalse : ¬ listed ip (lists 0) = true := by rw [h]; exact Bool.false_ne_true
  rw [allowIp_serving, if_neg hfalse, pollSnapshot_stale ip (lists 0) h]
  simp only [Nat.zero_add]

/-- The first of the polls at which the address is there. -/
theorem exists_first (n : Nat) (h : ∃ k, k ≤ n ∧ listed ip (lists k) = true) :
    ∃ k, k ≤ n ∧ listed ip (lists k) = true ∧ ∀ j, j < k → listed ip (lists j) = false := by
  rcases h with ⟨k, hk, hlisted⟩
  induction k using Nat.strongRecOn with
  | ind k ih =>
      by_cases hbefore : ∃ j, j < k ∧ listed ip (lists j) = true
      · rcases hbefore with ⟨j, hj, hjlisted⟩
        exact ih j hj (by omega) hjlisted
      · refine ⟨k, hk, hlisted, fun j hj => ?_⟩
        rw [← Bool.not_eq_true]
        intro hjlisted
        exact hbefore ⟨j, hj, hjlisted⟩

/-- When the change is seen: the address is in the first list, or in none of those
    that could be read. -/
theorem seesChange_iff (maxApiCallPolls : Nat) :
    SeesChange maxApiCallPolls lists ip ↔
      listed ip (lists 0) = true
        ∨ ∀ k, k ≤ maxApiCallPolls → listed ip (lists k) = false := by
  constructor
  · intro h
    by_cases hfirst : listed ip (lists 0) = true
    · exact Or.inl hfirst
    · right
      rw [Bool.not_eq_true] at hfirst
      intro k hk
      rw [← Bool.not_eq_true]
      intro hlisted
      -- the call has raised by then, whenever the address appears
      rcases exists_first lists ip maxApiCallPolls ⟨k, hk, hlisted⟩ with ⟨i, hi, hlist, hnone⟩
      rcases h.returns i hi hlist hnone with ⟨s, hrun, _⟩
      rw [allowIp_of_stale lists ip maxApiCallPolls hfirst] at hrun
      cases hrun
  · intro h
    refine ⟨fun k hk hlisted hnone => ?_, fun hnever => ?_⟩
    · have hfirst : listed ip (lists 0) = true := by
        rcases h with hfirst | hnever
        · exact hfirst
        · rw [hnever k hk] at hlisted
          cases hlisted
      refine ⟨⟨0, 1⟩, allowIp_of_listed lists ip maxApiCallPolls hfirst, ?_⟩
      simp only
      omega
    · have hfirst := hnever 0 (Nat.zero_le _)
      exact ⟨_, _, allowIp_of_stale lists ip maxApiCallPolls hfirst, rfl⟩

end Polling

/-- A list that has the address from the first poll on. -/
def afterOneNap (i : Nat) : List AllowedIp :=
  if i = 0 then [] else [⟨"198.51.100.7"⟩]

/-- The address is there after one nap of sixty, and the call raises. -/
theorem appearance_missed : ¬ SeesChange 60 afterOneNap "198.51.100.7" := by
  intro h
  have hnone : ∀ j, j < 1 → listed "198.51.100.7" (afterOneNap j) = false := by
    intro j hj
    rw [Nat.lt_one_iff.mp hj]
    rfl
  rcases h.returns 1 (by omega) (by decide) hnone with ⟨s, hrun, _⟩
  rw [allowIp_of_stale afterOneNap "198.51.100.7" 60 rfl] at hrun
  cases hrun

end SkySql

end Xbench
