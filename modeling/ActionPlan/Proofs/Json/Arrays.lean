import ActionPlan.Json.Tree
import ActionPlan.Proofs.Json.Tokens

/-!
# Texts that Begin with an Opening Bracket

Whoever looks for an array in a text may start at an opening bracket and leave the rest to the
reader of JSON. What the reader returns is then an array, or nothing.

The bracket is the first token, and it puts the frame of an array at the bottom of the stack.
From then on a frame is only ever opened above it, completed, or given one more part, so it stays
there until its own tree takes its place. Nothing is below it, so that is the end, and if the
tokens give out before, the array that was begun is the outermost one all the same.

## Main definitions

* `Frame.IsOfItems`: The frame is that of an array.
* `StartsArray`: The frame at the bottom of a stack is that of an array.
* `Step.EndsArray`: What is at the bottom of the stack, or was, is an array.

## Theorems

* `take_endsArray`: A token leaves the frame at the bottom one of an array.
* `assemble_eq_array`: So the tree that is put together is an array.
* `eq_array_of_ofText?`: A text that begins with an opening bracket holds an array or nothing.
-/

namespace ActionPlan

namespace Json

/-- The frame is that of an array. -/
def Frame.IsOfItems (frame : Frame) : Prop :=
  ∃ done, frame = .items done

/-- What was opened first, and is still open, is an array. -/
def StartsArray (frames : List Frame) : Prop :=
  ∃ frame, frames.getLast? = some frame ∧ frame.IsOfItems

/-- What was opened first is an array, which is still open or was finished. -/
def Step.EndsArray : Step → Prop
  | .more _ frames => StartsArray frames
  | .finished tree => ∃ items closed, tree = .array items closed
  | .malformed => True

variable {frames : List Frame}

theorem StartsArray.push (h : StartsArray frames) (frame : Frame) :
    StartsArray (frame :: frames) := by
  rcases h with ⟨bottom, hbottom, hitems⟩
  refine ⟨bottom, ?_, hitems⟩
  rw [List.getLast?_cons, hbottom]
  rfl

theorem StartsArray.tail {frame next : Frame} (h : StartsArray (frame :: next :: frames)) :
    StartsArray (next :: frames) := by
  unfold StartsArray at h
  rwa [List.getLast?_cons_cons] at h

/-- The frame on top may change, as long as it does not stop being one of an array. -/
theorem StartsArray.replace {frame frame' : Frame} (h : StartsArray (frame :: frames))
    (hframe : frame.IsOfItems → frame'.IsOfItems) : StartsArray (frame' :: frames) := by
  cases frames with
  | nil =>
      rcases h with ⟨bottom, hbottom, hitems⟩
      rw [List.getLast?_singleton] at hbottom
      exact ⟨frame', List.getLast?_singleton, hframe (Option.some.inj hbottom ▸ hitems)⟩
  | cons next frames => exact h.tail.push frame'

/-- A frame that is not that of an array has another one below it. -/
theorem StartsArray.pop {frame : Frame} (h : StartsArray (frame :: frames))
    (hframe : ¬ frame.IsOfItems) : StartsArray frames := by
  cases frames with
  | nil =>
      rcases h with ⟨bottom, hbottom, hitems⟩
      rw [List.getLast?_singleton] at hbottom
      exact absurd (Option.some.inj hbottom ▸ hitems) hframe
  | cons next frames => exact h.tail

/-- A tree takes its place above the frame at the bottom. -/
theorem place_endsArray (h : StartsArray frames) (tree : Tree) :
    (Step.place tree frames).EndsArray := by
  rcases frames with _ | ⟨done | done | ⟨done, key⟩, frames⟩
  · rcases h with ⟨_, hnone, _⟩
    exact absurd hnone nofun
  · exact h.replace fun _ => ⟨tree :: done, rfl⟩
  · exact trivial
  · exact h.replace nofun

/-- The tree of an array takes the place of its own frame. -/
theorem placeArray_endsArray {done : List Tree} (h : StartsArray (.items done :: frames))
    (items : List Tree) (closed : Bool) : (Step.place (.array items closed) frames).EndsArray := by
  rcases frames with _ | ⟨next, frames⟩
  · exact ⟨items, closed, rfl⟩
  · exact place_endsArray h.tail _

theorem startValue_endsArray (h : StartsArray frames) (token : Token) :
    (Step.startValue frames token).EndsArray := by
  cases token with
  | openArray => exact h.push _
  | openObject => exact h.push _
  | null => exact place_endsArray h _
  | bool b => exact place_endsArray h _
  | number n => exact place_endsArray h _
  | string s => exact place_endsArray h _
  | _ => exact trivial

/-- A token leaves the frame at the bottom one of an array, or ends it. -/
theorem take_endsArray (h : StartsArray frames) (phase : Phase) (token : Token) :
    (Step.take phase frames token).EndsArray := by
  unfold Step.take
  -- A frame goes when its bracket or brace closes, and only that of an array can be the last.
  split
  · exact startValue_endsArray h _
  · exact placeArray_endsArray h _ true
  · exact startValue_endsArray h _
  · exact place_endsArray (h.pop nofun) _
  · exact h.replace nofun
  · exact h.replace nofun
  · exact h
  · exact h
  · exact placeArray_endsArray h _ true
  · exact h
  · exact place_endsArray (h.pop nofun) _
  · exact trivial

theorem abandon_eq_array (h : StartsArray frames) (tree : Tree) :
    ∃ items closed, Tree.abandon tree frames = .array items closed := by
  induction frames generalizing tree with
  | nil =>
      -- There is at least the frame of the array.
      rcases h with ⟨_, hnone, _⟩
      exact absurd hnone nofun
  | cons frame frames ih =>
      cases frame with
      | items done =>
          rw [Tree.abandon]
          -- The lowest frame is cut off as an array, and any other goes into the one below it.
          cases frames with
          | nil => exact ⟨_, false, rfl⟩
          | cons next frames => exact ih h.tail _
      | fields done => exact ih (h.pop nofun) _
      | field done key => exact ih (h.pop nofun) _

/-- The tree that is put together above the frame of an array is an array. -/
theorem assemble_eq_array (phase : Phase) (h : StartsArray frames) (ts : List Token) :
    ∃ items closed, (Tree.assemble phase frames ts).1 = .array items closed := by
  induction ts generalizing phase frames with
  | nil => exact abandon_eq_array h _
  | cons token ts ih =>
      -- A token leaves the lowest frame where it is, or it closes the array.
      have htake := take_endsArray h phase token
      rw [Tree.assemble]
      cases hstep : Step.take phase frames token with
      | more phase' frames' =>
          rw [hstep] at htake
          exact ih phase' htake
      | finished tree =>
          rw [hstep] at htake
          exact htake
      | malformed => exact abandon_eq_array h _

theorem eq_array_of_value? {depth : Nat} {items : List Tree} {closed : Bool} {v : Value}
    (h : (Tree.array items closed).value? depth = some v) : ∃ values, v = .array values := by
  rcases depth with _ | depth
  · exact absurd h.symm (Option.some_ne_none v)
  · rw [Tree.value?] at h
    split at h
    · rcases Option.map_eq_some_iff.mp h with ⟨values, _, hvalues⟩
      exact ⟨values, hvalues.symm⟩
    · exact absurd h.symm (Option.some_ne_none v)

/-- A text that begins with an opening bracket holds an array or nothing. -/
theorem eq_array_of_ofText? {text : List Char} {v : Value}
    (h : Value.ofText? (String.ofList ('[' :: text)) = some v) : ∃ values, v = .array values := by
  -- The bracket is a token of its own, and its array has the lowest frame from then on.
  have htokens : tokens (String.ofList ('[' :: text)).toList = .openArray :: tokens text := by
    rw [String.toList_ofList]
    exact tokens_of_scan? rfl rfl
  have hbottom : StartsArray [.items []] := ⟨.items [], rfl, [], rfl⟩
  rcases assemble_eq_array .firstItem hbottom (tokens text) with ⟨items, closed, htree⟩
  unfold Value.ofText? Tree.ofText at h
  rw [htokens, Tree.assemble] at h
  simp only [Step.take, Step.startValue, htree] at h
  split at h
  · exact eq_array_of_value? h
  · exact absurd h.symm (Option.some_ne_none v)

end Json

end ActionPlan
