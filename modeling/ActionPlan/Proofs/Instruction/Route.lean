import ActionPlan.Instruction.Route
import ActionPlan.Proofs.Plan.Order

/-!
# What a Route Promises

A direct plan goes to the caller as it is: neither a check on plans nor the rule for paths sees
it again. What has to be true of it is therefore a promise of the route. It is a single item
with valid fields that closes nothing, and if that is an item of a file, the rule accepts its
target, because the rule is asked about the very text that the item is built from.

A rejection says why. The route itself gives two reasons, and the screening a third.

## Theorems

* `target_of_readFile`: The observation of a file has the target that was asked for.
* `verificationPlace_ne_file`: No verification takes place in a file.
* `route_direct`: A direct plan is one valid item that the rule accepts.
* `isAnswer_of_route_direct`: A direct plan answers a phrase of reading or verifying.
* `route_rejected`: The route rejects for the domain or for the rule.
* `eq_of_screen_eq_ok`: The screening passes an instruction or finds it unsafe.
-/

namespace ActionPlan

/-- The observation of a file has the target that was asked for. -/
theorem Observation.target_of_readFile {path : String} {observation : Observation}
    (h : Observation.readFile path = .ok observation) : observation.target = path := by
  unfold readFile make at h
  split at h
  · next s hs =>
    rw [← Except.ok.inj h]
    exact (Option.some.inj (nonBlank_eq_some_iff.mp hs).1).symm
  · exact absurd h nofun

namespace Instruction

theorem verificationPlace_ne_file (instruction : List Char) :
    (verificationPlace instruction).1 ≠ .file := by
  unfold verificationPlace
  simp only
  split
  · exact nofun
  · split
    · exact nofun
    · exact nofun

/-- What is to be verified is launched on the desktop or on the web. -/
theorem verification?_spec {instruction : String} {action : Action}
    (h : verification? instruction = some action) :
    action.IsValid ∧ action.context ≠ .file ∧ action.kind = .launchApp := by
  unfold verification? at h
  rcases Option.bind_eq_some_iff.mp h with ⟨text, _, h⟩
  simp only at h
  split at h
  · next launch hlaunch =>
    rw [← Option.some.inj h]
    refine ⟨(Action.make_isValid hlaunch).verified _, ?_, ?_⟩
    · -- The launch takes place where the instruction says, with or without its verification.
      have hcontext : launch.context = (verificationPlace instruction.toList).1 := by
        rw [(Action.make_eq_ok_iff.mp hlaunch).1]
      change launch.context ≠ .file
      rw [hcontext]
      exact verificationPlace_ne_file instruction.toList
    · -- A verification is added to the launch, which stays a launch.
      change launch.kind = .launchApp
      rw [(Action.make_eq_ok_iff.mp hlaunch).1]
  · exact absurd h nofun

/-! ### Direct plans -/

/-- The item may be handed out without being held against the rule again. -/
structure IsDirect (rule : PathRule) (item : Item) : Prop where
  valid : item.IsValid
  closesNothing : item.isClose = false
  accepted : item.context = .file →
    ∃ target, item.target? = some target ∧ (rule target).isOk = true

theorem routeVerification_direct {rule : PathRule} {instruction : String} {text : List Char}
    {plan : Plan} (h : routeVerification instruction text = .direct plan) :
    ∃ item, plan = [item] ∧ IsDirect rule item := by
  unfold routeVerification at h
  split at h
  · split at h
    · next action haction =>
      rcases verification?_spec haction with ⟨hvalid, hcontext, hkind⟩
      refine ⟨.action action, (Route.direct.inj h).symm, hvalid, ?_, ?_⟩
      · -- A launch closes nothing.
        change (action.kind == .closeApp) = false
        rw [hkind]
        rfl
      · exact fun hfile => absurd hfile hcontext
    · exact absurd h nofun
  · exact absurd h nofun

theorem routeRead_direct {rule : PathRule} {target : String} {plan : Plan}
    (h : routeRead rule target = .direct plan) : ∃ item, plan = [item] ∧ IsDirect rule item := by
  unfold routeRead at h
  split at h
  · exact absurd h nofun
  · next path hpath =>
    split at h
    · next observation hread =>
      refine ⟨.observation observation, (Route.direct.inj h).symm,
        Observation.make_isValid hread, rfl, fun _ => ⟨observation.target, rfl, ?_⟩⟩
      -- The rule was asked about the text that became the target.
      rw [Observation.target_of_readFile hread, hpath]
      rfl
    · exact absurd h nofun

/-- A direct plan is a single item with valid fields, closes nothing, and is accepted by the
    rule. -/
theorem route_direct {rule : PathRule} {instruction : String} {plan : Plan}
    (h : route rule instruction = .direct plan) : ∃ item, plan = [item] ∧ IsDirect rule item := by
  unfold route at h
  simp only at h
  -- The route asks for the domain, for a phrase of reading, and for a file that is named.
  split at h
  · exact absurd h nofun
  · split at h
    · split at h
      · exact routeRead_direct h
      · exact routeVerification_direct h
    · exact routeVerification_direct h

/-- The plans with which the route answers: a look at the file that a phrase of reading
    announces, if the rule accepts it, and the launch that a phrase of verifying asks for. -/
inductive IsAnswer (rule : PathRule) (instruction : String) : Plan → Prop
  | read {target : String} {observation : Observation}
      (hphrase : Text.mentionsAny (Text.lowerAscii (Text.trim instruction.toList)) readPhrases =
        true)
      (htarget : readTarget? instruction = some target) (hrule : (rule target).isOk = true)
      (hread : Observation.readFile target = .ok observation) :
      IsAnswer rule instruction [.observation observation]
  | verify {action : Action}
      (hphrase : Text.mentionsAny (Text.lowerAscii (Text.trim instruction.toList)) verifyPhrases =
        true)
      (hverify : verification? instruction = some action) :
      IsAnswer rule instruction [.action action]

theorem isAnswer_of_routeVerification {rule : PathRule} {instruction : String} {plan : Plan}
    (h : routeVerification instruction (Text.lowerAscii (Text.trim instruction.toList)) =
      .direct plan) : IsAnswer rule instruction plan := by
  unfold routeVerification at h
  split at h
  · next hphrase =>
    -- A phrase of verifying counts only if something to be verified can be made out.
    split at h
    · next action haction =>
      rw [← Route.direct.inj h]
      exact .verify hphrase haction
    · exact absurd h nofun
  · exact absurd h nofun

/-- A direct plan answers a phrase. -/
theorem isAnswer_of_route_direct {rule : PathRule} {instruction : String} {plan : Plan}
    (h : route rule instruction = .direct plan) : IsAnswer rule instruction plan := by
  unfold route at h
  simp only at h
  split at h
  · exact absurd h nofun
  · split at h
    · next hphrase =>
      split at h
      · -- A file is named: the plan is the look at it.
        next target htarget =>
        unfold routeRead at h
        split at h
        · exact absurd h nofun
        · next path hpath =>
          split at h
          · next observation hread =>
            rw [← Route.direct.inj h]
            exact .read hphrase htarget (by rw [hpath]; rfl) hread
          · exact absurd h nofun
      · exact isAnswer_of_routeVerification h
    · exact isAnswer_of_routeVerification h

/-! ### Rejections -/

theorem routeVerification_ne_rejected {instruction : String} {text : List Char}
    {rejection : Rejection} : routeVerification instruction text ≠ .rejected rejection := by
  unfold routeVerification
  split
  · split
    · exact nofun
    · exact nofun
  · exact nofun

/-- The route rejects market analysis, and files that the rule does not accept. -/
theorem route_rejected {rule : PathRule} {instruction : String} {rejection : Rejection}
    (h : route rule instruction = .rejected rejection) :
    rejection = .outOfDomain ∨ ∃ target escape, readTarget? instruction = some target ∧
      rule target = .error escape ∧ rejection = .outsideWorkspace escape := by
  unfold route at h
  simp only at h
  split at h
  · -- This is the market analysis.
    exact .inl (Route.rejected.inj h).symm
  · split at h
    · split at h
      · next target htarget =>
        unfold routeRead at h
        split at h
        · -- A file is named that the rule does not accept.
          next escape hescape =>
          exact .inr ⟨target, escape, htarget, hescape, (Route.rejected.inj h).symm⟩
        · split at h
          · exact absurd h nofun
          · exact absurd h nofun
      · -- A verification is never rejected.
        exact absurd h routeVerification_ne_rejected
    · exact absurd h routeVerification_ne_rejected

/-- The screening finds an instruction unsafe or passes it to a generator. -/
theorem eq_of_screen_eq_ok {instruction : String} {outcome : Route}
    (h : screen instruction = .ok outcome) :
    outcome = .generate ∨ ∃ keyword, outcome = .rejected (.unsafeWording keyword) := by
  unfold screen at h
  simp only at h
  split at h
  · exact absurd h nofun
  · split at h
    · exact absurd h nofun
    · split at h
      · next keyword _ => exact .inr ⟨keyword, (Except.ok.inj h).symm⟩
      · exact .inl (Except.ok.inj h).symm

end Instruction

end ActionPlan
