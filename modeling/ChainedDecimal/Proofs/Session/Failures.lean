import ChainedDecimal.Proofs.Session.Calls

/-!
# Commands on bracketed chains that fail

A command on a bracketed chain that fails leaves the session as it was, and nothing is reported if
all values fit. Reading a result reports the formula first and asks the pool then, and a pool would
refuse a value beyond the limits. But no chain has such a value if it was given none.
-/

namespace ChainedDecimal

namespace Session

open ChainedDecimal.Bracket

/-- Whether a command is addressed to bracketed chains. -/
def Command.onBrackets : Command → Bool
  | .beginBracket _ | .scope _ _ => true
  | _ => false

/-- Whether a command that is addressed to bracketed chains was answered by a fault. -/
def failedOnBrackets (c : Command) (r : Reply) : Bool := c.onBrackets && !r.outcome.isOk

/-- The decimals that a command begins something with fit. No others can be written down, for a
numeral that does not fit is not read; see `Numeral.fits_of_ofString?`. -/
def Command.Fits : Command → Prop
  | .beginBracket x | .beginChain x => x.Fits
  | .scope _ (.call c) => c.Fits
  | .newChain (.finite d) _ => d.Fits
  | _ => True

instance : (c : Command) → Decidable c.Fits
  | .beginBracket x | .beginChain x => inferInstanceAs (Decidable x.Fits)
  | .scope _ (.call c) => inferInstanceAs (Decidable c.Fits)
  | .newChain (.finite d) _ => inferInstanceAs (Decidable d.Fits)
  | .scope _ .result | .scope _ .shown | .scope _ (.refused _) | .newChain (.special _) _
  | .chain _ _ | .compareChains _ _ | .newGroup _ | .group _ _ | .evaluate _ _ | .newTrace _
  | .trace _ _ | .report _ _ _ | .newPool _ | .pool _ _ | .setVariables _ | .settings _
  | .calculate _ | .refused _ => isTrue trivial

variable {s t : Session} {command : Command}

/-! ## All values fit -/

/-- The values of all bracketed chains fit. -/
def BracketsFit (s : Session) : Prop := ∀ c ∈ s.brackets, c.Fits

theorem BracketsFit.of_get (h : s.BracketsFit) {k : Nat} {c : Chain}
    (hc : s.brackets[k]? = some c) : c.Fits := h c (List.mem_of_getElem? hc)

theorem finish_of_fits {v : Decimal} (h : v.Fits) : ∃ p, s.finish (.finite v) = .ok p := by
  obtain ⟨e, q, hget⟩ := Pool.exists_get h s.settings.installedPool
  rw [finish, Settings.pooledNumeral_finite, Settings.pooled, hget]
  exact ⟨_, rfl⟩

/-! ## One command -/

theorem failedOnBrackets_iff {r : Reply} :
    failedOnBrackets command r = true ↔ command.onBrackets = true ∧ ∃ f, r.outcome = .error f := by
  rw [failedOnBrackets, Bool.and_eq_true, Bool.not_eq_true']
  refine and_congr_right fun _ ↦ ?_
  rcases r.outcome with f | o
  · simp [Except.isOk, Except.toBool]
  · simp [Except.isOk, Except.toBool]

theorem onBrackets_iff : command.onBrackets = true ↔
    (∃ initial, command = .beginBracket initial) ∨ ∃ on request, command = .scope on request := by
  cases command <;> simp [Command.onBrackets]

/-- Beginning a chain fails without any trace of it. -/
theorem beginBracket_of_error {initial : Argument} {f : Fault}
    (h : (s.beginBracket initial).2.outcome = .error f) :
    s.beginBracket initial = (s, .of (.error f)) := by
  cases hc : Chain.begin initial s.settings.tracing with
  | error g =>
    rw [beginBracket_error hc] at h ⊢
    cases h
    rfl
  | ok c =>
    rw [beginBracket_ok hc] at h
    cases h

/-- So does a request to a scope, but for the report of a result that the pool refuses. -/
theorem Numbered.askScope_of_error (h : s.Numbered) {i k id : Nat} {c : Chain}
    {request : ScopeRequest} {f : Fault} (hc : s.brackets[k]? = some c)
    (herr : (s.askScope i k id c request).2.outcome = .error f) :
    (s.askScope i k id c request).1 = s ∧
      (c.Fits → (s.askScope i k id c request).2.events = []) := by
  match request with
  | .call call =>
    rw [askScope] at herr ⊢
    cases hcall : c.call id call with
    | error g =>
      rw [callScope_error hcall]
      exact ⟨rfl, fun _ ↦ rfl⟩
    | ok c' =>
      obtain ⟨j, -, heq⟩ := h.callScope_ok (i := i) hc hcall
      rw [heq] at herr
      cases herr
  | .result =>
    rw [askScope] at herr ⊢
    cases hresult : c.result id with
    | error g => exact ⟨rfl, fun _ ↦ rfl⟩
    | ok v =>
      simp only [hresult, read] at herr ⊢
      cases hfinish : s.finish (.finite v) with
      | error g =>
        refine ⟨rfl, fun hfits ↦ ?_⟩
        -- The pool has an answer, for the value fits.
        obtain ⟨p, hp⟩ := finish_of_fits (s := s) (hfits.result hresult)
        rw [hfinish] at hp
        cases hp
      | ok p =>
        rw [hfinish] at herr
        cases herr
  | .shown =>
    rw [askScope]
    cases c.view? id with
    | none => exact ⟨rfl, fun _ ↦ rfl⟩
    | some v => exact ⟨rfl, fun _ ↦ rfl⟩
  | .refused why => exact ⟨rfl, fun _ ↦ rfl⟩

/-- A command on bracketed chains that fails changes nothing. -/
theorem Numbered.step_of_failed (h : s.Numbered)
    (hfail : failedOnBrackets command (s.step command).2 = true) :
    (s.step command).1 = s ∧ (s.BracketsFit → (s.step command).2.events = []) := by
  obtain ⟨hon, f, herr⟩ := failedOnBrackets_iff.1 hfail
  rcases onBrackets_iff.1 hon with ⟨initial, rfl⟩ | ⟨on, request, rfl⟩
  · rw [Session.step] at herr ⊢
    rw [beginBracket_of_error herr]
    exact ⟨rfl, fun _ ↦ rfl⟩
  · rw [Session.step] at herr ⊢
    rcases s.onScope_cases on request with heq | ⟨i, k, id, c, -, -, hc, heq⟩
    · rw [heq]
      exact ⟨rfl, fun _ ↦ rfl⟩
    · rw [heq] at herr ⊢
      obtain ⟨hsame, hevents⟩ := h.askScope_of_error hc herr
      exact ⟨hsame, fun hfits ↦ hevents (hfits.of_get hc)⟩

/-- Values that fit lead to values that fit. -/
theorem Numbered.bracketsFit_step (h : s.Numbered) (hs : s.BracketsFit) (hfits : command.Fits) :
    (s.step command).1.BracketsFit := by
  refine h.bracketValues_step (fun _ hd ↦ hd) hs ?_ ?_
  · rintro x rfl
    exact hfits
  · rintro on call rfl
    exact Call.Fits.satisfies hfits

theorem Numbered.bracketsFit_run (h : s.Numbered) (hs : s.BracketsFit) {commands : List Command}
    (hfits : ∀ c ∈ commands, c.Fits) : (s.run commands).1.BracketsFit := by
  induction commands generalizing s with
  | nil => exact hs
  | cons c cs ih =>
    have hstep := h.bracketsFit_step hs (hfits c List.mem_cons_self)
    exact ih (h.step c) hstep fun d hd ↦ hfits d (List.mem_cons_of_mem c hd)

end Session

end ChainedDecimal
