import Mathlib.Data.List.Induction
import SerialBridge.Bridge.Basic

/-!
# The protocol of driver calls

A driver is set up, used, perhaps stopped, and cleaned up, in this order, and only then set up
again. One way through is a `Period`; a set-up that is refused is a period by itself. `Word` says
that calls are any number of periods, one after the other: in the notation of regular expressions,

`( refused set-up | granted set-up (start | send)* [stop] clean-up )*`.

Calls that have not come to a clean-up yet are a prefix of such a word. `Stage` is the state of the
automaton that reads the words from left to right, and `Stage.Leads` its runs. Whatever a run has
read fits the stage that it has come to (`Stage.Leads.fits`), and from that the laws of the order
follow: `CallsInOrder` collects them.
-/

namespace SerialBridge

namespace Contact

/-- Whether a dealing is a call of the driver. -/
def isCall : Contact → Bool
  | .discovery _ => false
  | _ => true

/-- Whether a call is use of a driver that has been set up. -/
def isUse : Contact → Bool
  | .start _ => true
  | .send _ => true
  | _ => false

/-- Whether a call sets the driver up successfully. -/
def isGranted : Contact → Bool
  | .init _ .success => true
  | _ => false

/-- The reporter that a call hands over, if it hands one over. -/
def reporter? : Contact → Option Reporter
  | .init r _ => some r
  | _ => none

end Contact

/-! ### Words -/

/-- The calls of one period. -/
inductive Period : List Contact → Prop where
  /-- The set-up is refused. -/
  | refused (r : Reporter) {result : CallResult} (h : result ≠ .success) : Period [.init r result]
  /-- The driver is used and cleaned up. -/
  | served (r : Reporter) {use : List Contact} (h : ∀ c ∈ use, c.isUse = true) :
    Period (.init r .success :: use ++ [.cleanup])
  /-- The driver is used, stopped and cleaned up. -/
  | stopped (r : Reporter) {use : List Contact} (h : ∀ c ∈ use, c.isUse = true) :
    Period (.init r .success :: use ++ [.stop, .cleanup])

/-- The calls are periods, one after the other. -/
def Word (calls : List Contact) : Prop :=
  ∃ periods : List (List Contact), (∀ p ∈ periods, Period p) ∧ calls = periods.flatten

theorem Word.nil : Word [] := ⟨[], nofun, rfl⟩

/-- A word with a further period is a word. -/
theorem Word.append {calls period : List Contact} (h : Word calls) (hp : Period period) :
    Word (calls ++ period) := by
  obtain ⟨periods, hperiods, rfl⟩ := h
  refine ⟨periods ++ [period], fun p hmem => ?_, by simp⟩
  rcases List.mem_append.mp hmem with hmem | hmem
  · exact hperiods p hmem
  · obtain rfl := List.mem_singleton.mp hmem
    exact hp

/-! ### Stages -/

/-- How far the calls have come in the period that they are in. -/
inductive Stage where
  /-- No period has begun. -/
  | idle
  /-- The driver has been set up. -/
  | serving
  /-- The driver has been told to stop. -/
  | stopping
deriving DecidableEq

namespace Stage

theorem serving_ne_idle : serving ≠ idle := by decide

theorem stopping_ne_idle : stopping ≠ idle := by decide

/-- The stage after one further call. Of other calls the protocol knows nothing. -/
inductive Next : Stage → Contact → Stage → Prop where
  | refused {r : Reporter} {result : CallResult} (h : result ≠ .success) :
    Next idle (.init r result) idle
  | granted {r : Reporter} : Next idle (.init r .success) serving
  | used {c : Contact} (h : c.isUse = true) : Next serving c serving
  | stopped : Next serving .stop stopping
  | cleaned {p : Stage} (h : p ≠ idle) : Next p .cleanup idle

/-- The calls lead from one stage to another. -/
inductive Leads : Stage → List Contact → Stage → Prop where
  | nil {p : Stage} : Leads p [] p
  | cons {p q r : Stage} {c : Contact} {calls : List Contact} (hc : Next p c q)
    (hcalls : Leads q calls r) : Leads p (c :: calls) r

/-- How many clean-ups are owed at a stage. -/
def owed : Stage → Nat
  | idle => 0
  | serving => 1
  | stopping => 1

/-- What is known of calls that have led to a stage: the periods that are over form a word, and
what remains is the beginning of a period. -/
def Fits (calls : List Contact) : Stage → Prop
  | idle => Word calls
  | serving => ∃ word r use, Word word ∧ (∀ c ∈ use, c.isUse = true) ∧
    calls = word ++ (.init r .success :: use)
  | stopping => ∃ word r use, Word word ∧ (∀ c ∈ use, c.isUse = true) ∧
    calls = word ++ (.init r .success :: use ++ [.stop])

/-- A granted set-up comes to owe a clean-up, and a clean-up is what settles it. -/
theorem Next.owed_eq {p q : Stage} {c : Contact} (h : Next p c q) :
    p.owed + (if c.isGranted = true then 1 else 0) = (if c = .cleanup then 1 else 0) + q.owed := by
  cases h with
  | @refused r result hresult =>
    cases result with
    | success => exact absurd rfl hresult
    | _ => rfl
  | granted => rfl
  | used hc =>
    cases c with
    | start link => rfl
    | send bytes => rfl
    | _ => cases hc
  | stopped => rfl
  | cleaned hp =>
    cases p with
    | idle => exact absurd rfl hp
    | _ => rfl

namespace Leads

variable {p q r : Stage} {xs ys calls : List Contact} {c : Contact}

theorem append (h : Leads p xs q) (h' : Leads q ys r) : Leads p (xs ++ ys) r := by
  induction h with
  | nil => exact h'
  | cons hc _ ih => exact .cons hc (ih h')

theorem snoc (h : Leads p xs q) (hc : Next q c r) : Leads p (xs ++ [c]) r :=
  h.append (.cons hc .nil)

/-- Calls lead where their first part leads, and from there where the rest does. -/
theorem split (h : Leads p (xs ++ ys) r) : ∃ q, Leads p xs q ∧ Leads q ys r := by
  induction xs generalizing p with
  | nil => exact ⟨p, .nil, h⟩
  | cons x xs ih =>
    cases h with
    | cons hx h =>
      obtain ⟨q, hxs, hys⟩ := ih h
      exact ⟨q, .cons hx hxs, hys⟩

/-- **What has been read fits the stage.** The induction is on the calls from their end, since it is
there that periods grow and come to their end. -/
theorem fits (h : Leads idle calls q) : q.Fits calls := by
  induction calls using List.reverseRecOn generalizing q with
  | nil => cases h; exact Word.nil
  | append_singleton calls c ih =>
    obtain ⟨p, hcalls, hlast⟩ := h.split
    -- The last call completes a period, or lengthens the one that is under way.
    have hfits := ih hcalls
    obtain ⟨hnext⟩ : Nonempty (Next p c q) := by
      cases hlast with
      | cons hc hnil => cases hnil; exact ⟨hc⟩
    cases hnext with
    | refused hresult => exact Word.append hfits (.refused _ hresult)
    | granted => exact ⟨calls, _, [], hfits, nofun, rfl⟩
    | used hc =>
      obtain ⟨word, r, use, hword, huse, rfl⟩ := hfits
      refine ⟨word, r, use ++ [c], hword, fun d hd => ?_, by simp⟩
      rcases List.mem_append.mp hd with hd | hd
      · exact huse d hd
      · obtain rfl := List.mem_singleton.mp hd
        exact hc
    | stopped =>
      obtain ⟨word, r, use, hword, huse, rfl⟩ := hfits
      exact ⟨word, r, use, hword, huse, by simp⟩
    -- The clean-up completes the period that is under way, whether or not the driver was stopped.
    | cleaned hp =>
      cases p with
      | idle => exact absurd rfl hp
      | serving =>
        obtain ⟨word, r, use, hword, huse, rfl⟩ := hfits
        change Word _
        rw [List.append_assoc]
        exact hword.append (.served r huse)
      | stopping =>
        obtain ⟨word, r, use, hword, huse, rfl⟩ := hfits
        change Word _
        rw [List.append_assoc, List.append_assoc]
        exact hword.append (.stopped r huse)

/-- Calls that have led somewhere are the beginning of a word. -/
theorem exists_word (h : Leads idle calls q) : ∃ word, Word word ∧ calls <+: word := by
  cases q with
  | idle => exact ⟨calls, h.fits, List.prefix_rfl⟩
  | serving =>
    have hcleaned := h.snoc (.cleaned serving_ne_idle)
    exact ⟨_, hcleaned.fits, List.prefix_append _ _⟩
  | stopping =>
    have hcleaned := h.snoc (.cleaned stopping_ne_idle)
    exact ⟨_, hcleaned.fits, List.prefix_append _ _⟩

/-- Calls without a clean-up do not lead back to where no period has begun. -/
theorem ne_idle (h : Leads p calls q) (hp : p ≠ idle) (hcalls : .cleanup ∉ calls) : q ≠ idle := by
  induction h with
  | nil => exact hp
  | cons hc _ ih =>
    rw [List.mem_cons, not_or] at hcalls
    cases hc with
    | refused hresult => exact absurd rfl hp
    | granted => exact absurd rfl hp
    | used hc => exact ih serving_ne_idle hcalls.2
    | stopped => exact ih stopping_ne_idle hcalls.2
    | cleaned hp => exact absurd rfl hcalls.1

/-- Set-ups that were granted and clean-ups balance, but for what is owed. -/
theorem count_granted (h : Leads p calls q) :
    p.owed + calls.countP Contact.isGranted = calls.count .cleanup + q.owed := by
  induction h with
  | nil => simp
  | cons hc _ ih =>
    have hstep := hc.owed_eq
    rw [List.countP_cons, List.count_cons]
    simp only [beq_iff_eq]
    omega

end Leads

end Stage

/-! ### The laws of the order -/

/-- The calls **keep to the protocol**, up to the last of them. -/
structure CallsInOrder (calls : List Contact) : Prop where
  /-- They are the beginning of a word. -/
  word : ∃ word, Word word ∧ calls <+: word
  /-- A driver is started, stopped or sent bytes only while it is set up, and not once it was told
  to stop: since the set-up there has been nothing but use. -/
  served : ∀ before c after, calls = before ++ c :: after → c.isUse = true ∨ c = .stop →
    ∃ earlier r use, before = earlier ++ .init r .success :: use ∧ ∀ u ∈ use, u.isUse = true
  /-- A driver that has been set up is cleaned up before it is set up again. -/
  cleaned : ∀ before r between r' result after,
    calls = before ++ .init r .success :: (between ++ .init r' result :: after) →
      .cleanup ∈ between
  /-- What follows a stop, and at once, is a clean-up. -/
  stopped : ∀ before after, calls = before ++ .stop :: after → ∃ rest, after = .cleanup :: rest

/-- Calls that have led to the beginning or the middle of a period keep to the protocol. -/
theorem Stage.Leads.callsInOrder {calls : List Contact} {q : Stage} (h : Leads idle calls q)
    (hq : q ≠ stopping) : CallsInOrder calls where
  word := h.exists_word
  served := by
    rintro before c after rfl hc
    obtain ⟨p, hbefore, hrest⟩ := h.split
    cases hrest with
    | cons hnext _ =>
      -- Only one stage allows use and stops, and there the calls so far are told by `Fits`.
      have hp : p = serving := by
        cases hnext with
        | used _ => rfl
        | stopped => rfl
        | _ => simp [Contact.isUse] at hc
      subst hp
      obtain ⟨word, r, use, -, huse, rfl⟩ := hbefore.fits
      exact ⟨word, r, use, rfl, huse⟩
  cleaned := by
    rintro before r between r' result after rfl
    obtain ⟨p, -, hrest⟩ := h.split
    -- Without a clean-up the second set-up would come in the middle of a period.
    refine Classical.not_not.mp fun hnone => ?_
    cases hrest with
    | cons hfirst hrest =>
      obtain ⟨p', hbetween, hlater⟩ := hrest.split
      cases hlater with
      | cons hsecond _ =>
        have hp' : p' = idle := by
          cases hsecond with
          | refused _ => rfl
          | granted => rfl
          | used hc => cases hc
        subst hp'
        cases hfirst with
        | refused hresult => exact hresult rfl
        | granted => exact hbetween.ne_idle serving_ne_idle hnone rfl
        | used hc => cases hc
  stopped := by
    rintro before after rfl
    obtain ⟨p, -, hrest⟩ := h.split
    cases hrest with
    | cons hstop hrest =>
      cases hstop with
      | used hc => cases hc
      | stopped =>
        cases hrest with
        | nil => exact absurd rfl hq
        | cons hnext _ =>
          cases hnext with
          | cleaned _ => exact ⟨_, rfl⟩

end SerialBridge
