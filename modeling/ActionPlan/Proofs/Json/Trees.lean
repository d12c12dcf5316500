import ActionPlan.Json.Tree
import ActionPlan.Proofs.Json.Tokens

/-!
# Trees of Printed Values

The tokens of a printed value are put together to the tree that has the shape of the value,
with nothing broken in it and nothing left over.

The machine that does this takes one token at a time and returns three different things, so
its run is described apart from its result. `Step.run` is only the walk through the tokens, and
for it one sentence holds of every value and of every place that a value can be in: its tokens
lead to where its tree takes its place (`run_valueTokens`). A walk that ends in a finished tree
is the run of the machine (`assemble_of_run`), and that is all that the end of a text adds.

## Main definitions

* `Value.tree`: The tree of a value.
* `Step.run`: Where several tokens lead, one after the other.
* `Phase.StartsValue`, `Phase.StartsKey`: What may start in a phase.

## Theorems

* `assemble_of_run`: Tokens that lead to a finished tree are put together to it.
* `run_valueTokens`: The tokens of a value lead to where its tree takes its place.
* `ofText_pretty`: The tree of a printed value is that of the value, and nothing follows it.
-/

namespace ActionPlan

namespace Json

mutual

/-- The tree of a value, which has no broken part. -/
def Value.tree : Value → Tree
  | .null => .null
  | .bool b => .bool b
  | .number n => .number (some n)
  | .string s => .string (some s)
  | .array items => .array (itemTrees items) true
  | .object fields => .object (fieldTrees fields) true

/-- The trees of the items of an array. -/
def itemTrees : List Value → List Tree
  | [] => []
  | v :: vs => v.tree :: itemTrees vs

/-- The trees of the fields of an object, under their keys. -/
def fieldTrees : List (String × Value) → List (Option String × Tree)
  | [] => []
  | (key, v) :: fields => (some key, v.tree) :: fieldTrees fields

end

/-- Where several tokens lead, one after the other. Nothing may follow a finished tree. -/
def Step.run : Step → List Token → Step
  | step, [] => step
  | .more phase frames, token :: ts => run (take phase frames token) ts
  | _, _ :: _ => .malformed

theorem run_malformed (ts : List Token) : Step.run .malformed ts = .malformed := by
  cases ts <;> rfl

/-- Tokens that lead to a finished tree are put together to that tree. -/
theorem assemble_of_run {ts : List Token} {phase : Phase} {frames : List Frame} {tree : Tree}
    (h : Step.run (.more phase frames) ts = .finished tree) :
    Tree.assemble phase frames ts = (tree, []) := by
  induction ts generalizing phase frames with
  | nil => exact absurd h nofun
  | cons token ts ih =>
      rw [Step.run] at h
      rw [Tree.assemble]
      cases hstep : Step.take phase frames token with
      | more phase' frames' =>
          rw [hstep] at h
          exact ih h
      | finished tree' =>
          -- Nothing may follow a finished tree, so this was the last token.
          rw [hstep] at h
          cases ts with
          | nil => rw [Step.finished.inj h]
          | cons _ _ => exact absurd h nofun
      | malformed =>
          rw [hstep, run_malformed] at h
          exact absurd h nofun

/-- Any value may start in this phase. -/
def Phase.StartsValue (phase : Phase) : Prop :=
  ∀ frames token, token ≠ .closeArray → Step.take phase frames token = Step.startValue frames token

theorem startsValue_value : Phase.StartsValue .value :=
  fun _ _ _ => rfl

theorem startsValue_firstItem : Phase.StartsValue .firstItem := by
  intro frames token htoken
  rcases frames with _ | ⟨_ | _ | _, frames⟩
  · rfl
  · -- Only the bracket that closes an empty array is taken in another way.
    cases token with
    | closeArray => exact absurd rfl htoken
    | _ => rfl
  · rfl
  · rfl

/-- A key may start in this phase. -/
def Phase.StartsKey (phase : Phase) : Prop :=
  ∀ done frames key, Step.take phase (.fields done :: frames) (.string key) =
    .more .colon (.field done key :: frames)

mutual

/-- The tokens of a value lead to where its tree takes its place. -/
theorem run_valueTokens : ∀ (v : Value) {phase : Phase} (frames : List Frame) (ts : List Token),
    phase.StartsValue → Step.run (.more phase frames) (valueTokens v ++ ts) =
      Step.run (.place v.tree frames) ts
  | .null, _, frames, ts, hphase => congrArg (Step.run · ts) (hphase frames .null nofun)
  | .bool b, _, frames, ts, hphase => congrArg (Step.run · ts) (hphase frames (.bool b) nofun)
  | .number n, _, frames, ts, hphase =>
      congrArg (Step.run · ts) (hphase frames (.number (some n)) nofun)
  | .string s, _, frames, ts, hphase =>
      congrArg (Step.run · ts) (hphase frames (.string (some s)) nofun)
  | .array items, _, frames, ts, hphase => by
      rw [valueTokens, List.cons_append, List.append_assoc, Step.run,
        hphase frames .openArray nofun]
      -- The token behind the bracket closes the array, or it begins the first item.
      cases items with
      | nil => rfl
      | cons v items =>
          exact run_itemTokens (v :: items) [] frames ts (List.cons_ne_nil v items)
            startsValue_firstItem
  | .object fields, _, frames, ts, hphase => by
      rw [valueTokens, List.cons_append, List.append_assoc, Step.run,
        hphase frames .openObject nofun]
      -- Likewise for an object and the first of its keys.
      cases fields with
      | nil => rfl
      | cons field fields =>
          exact run_fieldTokens (field :: fields) [] frames ts (List.cons_ne_nil field fields)
            fun _ _ _ => rfl

theorem run_itemTokens : ∀ (items : List Value) {phase : Phase} (done : List Tree)
    (frames : List Frame) (ts : List Token), items ≠ [] → phase.StartsValue →
    Step.run (.more phase (.items done :: frames))
        ([Token.comma].intercalate (itemTokens items) ++ .closeArray :: ts) =
      Step.run (.place (.array (done.reverse ++ itemTrees items) true) frames) ts
  | [], _, _, _, _, hne, _ => absurd rfl hne
  | [v], _, done, frames, ts, _, hphase => by
      rw [itemTokens, itemTokens, List.intercalate_singleton,
        run_valueTokens v (.items done :: frames) (.closeArray :: ts) hphase, itemTrees, itemTrees,
        ← List.reverse_cons]
      rfl
  | v :: w :: items, _, done, frames, ts, _, hphase => by
      -- The first item takes its place, and the comma behind it asks for the next one.
      have hdone : done.reverse ++ itemTrees (v :: w :: items) =
          (v.tree :: done).reverse ++ itemTrees (w :: items) := by
        rw [List.reverse_cons, List.append_assoc, List.singleton_append, itemTrees]
      rw [itemTokens, itemTokens, List.intercalate_cons_cons, List.append_assoc, List.append_assoc,
        run_valueTokens v (.items done :: frames) _ hphase, hdone]
      exact run_itemTokens (w :: items) (v.tree :: done) frames ts (List.cons_ne_nil w items)
        startsValue_value

theorem run_fieldTokens : ∀ (fields : List (String × Value)) {phase : Phase}
    (done : List (Option String × Tree)) (frames : List Frame) (ts : List Token), fields ≠ [] →
    phase.StartsKey →
    Step.run (.more phase (.fields done :: frames))
        ([Token.comma].intercalate (fieldTokens fields) ++ .closeObject :: ts) =
      Step.run (.place (.object (done.reverse ++ fieldTrees fields) true) frames) ts
  | [], _, _, _, _, hne, _ => absurd rfl hne
  | [(key, v)], _, done, frames, ts, _, hphase => by
      rw [fieldTokens, fieldTokens, List.intercalate_singleton, List.cons_append, Step.run, hphase,
        fieldTrees, fieldTrees, ← List.reverse_cons]
      exact run_valueTokens v (.field done (some key) :: frames) (.closeObject :: ts)
        startsValue_value
  | (key, v) :: (key', w) :: fields, _, done, frames, ts, _, hphase => by
      -- The same for a field, where the key waits in the frame until its value is there.
      have hdone : done.reverse ++ fieldTrees ((key, v) :: (key', w) :: fields) =
          ((some key, v.tree) :: done).reverse ++ fieldTrees ((key', w) :: fields) := by
        rw [List.reverse_cons, List.append_assoc, List.singleton_append, fieldTrees]
      rw [fieldTokens, fieldTokens, List.intercalate_cons_cons, List.append_assoc,
        List.append_assoc, List.cons_append, Step.run, hphase, hdone]
      exact (run_valueTokens v (.field done (some key) :: frames) _ startsValue_value).trans
        (run_fieldTokens ((key', w) :: fields) ((some key, v.tree) :: done) frames ts
          (List.cons_ne_nil _ fields) fun _ _ _ => rfl)

end

/-- The tree of a printed value is that of the value, and nothing follows it. -/
theorem ofText_pretty {v : Value} (h : v.HasWordNumbers) :
    Tree.ofText v.pretty = (v.tree, true) := by
  have hrun := run_valueTokens v [] [] startsValue_value
  rw [List.append_nil] at hrun
  rw [Tree.ofText, tokens_pretty h, assemble_of_run hrun]
  rfl

end Json

end ActionPlan
