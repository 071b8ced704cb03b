import TriggerFlow.Proofs.Run.Calm

/-!
The walk as a recursion. Visiting a node runs it and then visits the targets of its connections, one
after the other, each with everything that follows from it; the path is the chain of open visits.
It ends because a path never goes through a node twice. What the stack of a walk still has to do is
the rest of the open visits, so that both do the same whatever the dispatcher answers.

The recursion says for itself what it is to run a node, to follow a connection and to overlay an
input; that the walk means the same by it are the first lemmas.
-/

namespace TriggerFlow.Engine

open Program

/-- A step without what the surroundings add to it, its id and its times. -/
structure Outline where
  node : String
  nodeName : String
  status : StepStatus
  error : Option String
  output : Option Fields

namespace Outline

def ofStep (s : Step) : Outline := ⟨s.node, s.nodeName, s.status, s.error, s.output⟩

def succeeded (n : Node) (output : Fields) : Outline :=
  ⟨n.id, n.displayName, .success, none, some output⟩

def failed (n : Node) (f : Failure) : Outline := ⟨n.id, n.displayName, .failed, some f.shown, none⟩

def skipped (w : Workflow) (c : Connection) : Outline :=
  ⟨c.target, ((w.nodes.find? fun n => n.id = c.target).map Node.displayName).getD c.target,
    .skipped, none, none⟩

theorem skipped_eq (w : Workflow) (c : Connection) : skipped w c =
    ⟨c.target, ((w.node? c.target).map Node.displayName).getD c.target, .skipped, none, none⟩ := rfl

@[simp] theorem ofStep_visitStep (n : Node) (v : Visit) :
    ofStep (v.step n) = succeeded n v.output := rfl

@[simp] theorem ofStep_failedStep (n : Node) (id : String) (start finish : Moment) (f : Failure) :
    ofStep (failedStep n id start finish f.shown) = failed n f := rfl

@[simp] theorem ofStep_skippedStep (w : Workflow) (c : Connection) (id : String) (time : Moment) :
    ofStep (skippedStep w c id time) = skipped w c := rfl

end Outline

def outlines (e : Execution) : List Outline := e.steps.map Outline.ofStep

@[simp] theorem outlines_addStep (e : Execution) (s : Step) :
    outlines (e.addStep s) = outlines e ++ [.ofStep s] := by
  simp [outlines, Execution.addStep]

theorem any_outlines (e : Execution) (node : String) :
    ((outlines e).any fun s => s.node == node && s.status == .success) =
      (e.successfulStep? node).isSome := by
  rw [outlines, List.any_map, Execution.successfulStep?, List.isSome_find?]
  rfl

namespace DepthFirst

/-- Whether two keys are one: text by text, and keys that are no text by the numbers they name. -/
def oneKey (a b : String) : Bool :=
  if Key.isMarked a ∧ Key.isMarked b then Key.canonical (Key.form a) = Key.canonical (Key.form b)
  else a = b

/-- What fields have under a key; of several values the last one counts. -/
def lastValue (key : String) : Fields → Option Value
  | [] => none
  | f :: fs => (lastValue key fs).or (if oneKey key f.1 then some f.2 else none)

def without (key : String) (fs : Fields) : Fields := fs.filter fun f => !oneKey key f.1

/-- An input overlaid by an output: each field of the input with what the output has under its key,
if it has anything there, and then what else is in the output, every key once. -/
def overlaid : Fields → Fields → Fields
  | [], [] => []
  | [], f :: output => overlaid [f] output
  | f :: context, output =>
    (f.1, (lastValue f.1 output).getD f.2) :: overlaid context (without f.1 output)
termination_by context output => context.length + 2 * output.length
decreasing_by
  · simp only [List.length_cons, List.length_nil]
    omega
  · have fewer : (without f.1 output).length ≤ output.length := List.length_filter_le _ _
    simp only [List.length_cons]
    omega

/-- What a value is gone through by: the elements of a list, the characters of a text, the keys of
an object. -/
def partsOf : Value → Option (List Value)
  | .arr xs => some xs
  | .str s => some (s.toList.map fun c => .str (String.singleton c))
  | .obj fs => some (fs.map fun f => .str f.1)
  | _ => none

/-- The field that the `i`-th part of an output is, which has a key and a value as its own parts. -/
def fieldOf (i : Nat) (v : Value) : Except Failure (String × Value) :=
  match partsOf v with
  | some [k, x] => (Key.ofValue k).map (·, x)
  | some vs => .error (.output (.wrongLength i vs.length))
  | none => .error (.output (.notPair i))

def fieldsOf (i : Nat) : List Value → Except Failure Fields
  | [] => .ok []
  | v :: vs => do
    let f ← fieldOf i v
    return f :: (← fieldsOf (i + 1) vs)

/-- The output that the reply of the dispatcher is, or stands for if it is no object: one field for
every part, where of several with one key the last one counts, and nothing for an empty value. -/
def outputOf (v : Value) : Except Failure Fields :=
  match v, partsOf v with
  | .obj fs, _ => .ok fs
  | _, some vs => (fieldsOf 0 vs).map (overlaid [])
  | _, none => if v.isEmpty then .ok [] else .error (.isNot v.typeName "iterable")

/-- Run a node on an input: a trigger adds to the input what it is triggered by, an action is one
call of the dispatcher. -/
def work (n : Node) (context : Fields) : Work (Except Failure Fields) :=
  match n.kind with
  | .trigger event => .done (.ok (overlaid context [("triggered_by", .str event.name)]))
  | .action a =>
    .call (.invoke a n.config (.obj context)) fun (reply : Except Failure Value) =>
      .done (reply.bind outputOf)

section OwnTerms

theorem oneKey_eq_same (a b : String) : oneKey a b = Key.same a b := by
  unfold oneKey Key.same
  by_cases equal : a = b
  · subst equal
    simp
  · by_cases marked : Key.isMarked a = true ∧ Key.isMarked b = true
    · rw [if_pos marked, marked.1, marked.2, beq_eq_false_iff_ne.mpr equal]
      rfl
    · rw [if_neg marked, ← Bool.and_eq_true, Bool.not_eq_true] at *
      simp [equal, marked]

theorem among_cons (k : String) (v : Value) (context : Fields) (key : String) :
    Key.among ((k, v) :: context) key = if oneKey k key then k else Key.among context key := by
  rw [oneKey_eq_same, Key.among, List.find?_cons]
  cases one : Key.same k key with
  | true => simp
  | false => simp [Key.among]

/-- A key does not stand among fields as one that it is not one with. -/
theorem ne_among {context : Fields} {k key : String} (other : oneKey k key = false) :
    k ≠ Key.among context key := by
  rintro rfl
  rw [oneKey_eq_same, Key.among] at other
  cases found : context.find? fun f => Key.same f.1 key with
  | none =>
      rw [found] at other
      simp [Key.same] at other
  | some f =>
      rw [found] at other
      have one := List.find?_some found
      exact absurd one (Bool.eq_false_iff.mp other)

/-- What is set in fields goes under the first key if it belongs there, otherwise into the rest. -/
theorem overlay_cons (k : String) (v : Value) (context output : Fields) :
    Key.overlay ((k, v) :: context) output =
      (k, (lastValue k output).getD v) :: Key.overlay context (without k output) := by
  induction output generalizing v context with
  | nil => rfl
  | cons f output ih =>
      have step (fs : Fields) :
          Key.overlay fs (f :: output) = Key.overlay (fs.set (Key.among fs f.1) f.2) output := rfl
      rw [step, among_cons, without, List.filter_cons, lastValue]
      by_cases one : oneKey k f.1 = true
      · rw [if_pos one, if_pos one, Fields.set, if_pos rfl, ih, one]
        cases lastValue k output <;> rfl
      · have other : oneKey k f.1 = false := Bool.eq_false_iff.mpr one
        rw [if_neg one, if_neg one, Fields.set, if_neg (ne_among other), ih, other,
          Option.or_none]
        rfl

theorem overlay_eq_overlaid (context output : Fields) :
    Key.overlay context output = overlaid context output := by
  induction context, output using overlaid.induct with
  | case1 =>
      rw [overlaid]
      rfl
  | case2 f output ih =>
      rw [overlaid, ← ih]
      rfl
  | case3 f context output ih => rw [overlaid, overlay_cons, ih]

theorem fieldOf_eq (i : Nat) (v : Value) : fieldOf i v = Output.pair i v := by
  cases v with
  | arr xs =>
      match xs with
      | [] | [_] | [_, _] | _ :: _ :: _ :: _ => rfl
  | str s =>
      rw [fieldOf, partsOf, Output.pair]
      match s.toList with
      | [] | [_] | [_, _] => rfl
      | _ :: _ :: _ :: cs => simp
  | obj fs =>
      match fs with
      | [] | [_] | [_, _] => rfl
      | _ :: _ :: _ :: fs => simp [fieldOf, partsOf, Output.pair]
  | null | bool | int | float | time => rfl

theorem fieldsOf_eq (i : Nat) (vs : List Value) :
    fieldsOf i vs = (vs.zipIdx i).mapM fun (v, i) => Output.pair i v := by
  induction vs generalizing i with
  | nil => rfl
  | cons v vs ih => rw [List.zipIdx_cons, List.mapM_cons, fieldsOf, fieldOf_eq, ih]

theorem pairs_eq (vs : List Value) : Output.pairs vs = (fieldsOf 0 vs).map (overlaid []) := by
  rw [Output.pairs, fieldsOf_eq, funext (overlay_eq_overlaid [])]

theorem outputOf_eq (v : Value) : outputOf v = Output.fields v := by
  cases v with
  | obj fs =>
      cases fs with
      | nil | cons => rfl
  | arr xs =>
      cases xs with
      | nil => exact (pairs_eq []).symm
      | cons x xs => exact (pairs_eq _).symm
  | str s =>
      by_cases empty : s = ""
      · subst empty
        exact (pairs_eq []).symm
      · rw [Output.fields, if_neg (by simpa [Value.isEmpty] using empty)]
        exact (pairs_eq _).symm
  | null | bool | int | float | time => rfl

theorem perform_eq_work (n : Node) (context : Fields) : perform n context = work n context := by
  cases kind : n.kind with
  | trigger event =>
      have plain : ∀ f ∈ [("triggered_by", Value.str event.name)], Key.isMarked f.1 = false := by
        rw [List.forall_mem_singleton]
        show Key.isMarked "triggered_by" = false
        decide +kernel
      simp only [perform, work, kind]
      rw [← overlay_eq_overlaid, Key.overlay_of_not_marked context _ plain]
      rfl
  | action a =>
      simp only [perform, work, kind]
      refine congrArg (Program.call _) (funext fun reply => ?_)
      cases reply with
      | error f => rfl
      | ok v => exact congrArg Program.done (outputOf_eq v).symm

end OwnTerms

/-- The nodes that a path does not go through, counted. -/
def away (w : Workflow) (path : List String) : Nat :=
  totalWeight (fun _ => 1) (w.nodes.filter fun n => !path.contains n.id)

theorem away_append_lt {w : Workflow} {path : List String} {n : Node} (hn : n ∈ w.nodes)
    (h : n.id ∉ path) : away w (path ++ [n.id]) < away w path :=
  totalWeight_filter_lt (fun _ => 1) _ _ (by simp +contextual) hn (by simp) (by simpa using h)

/-- Go on with the steps so far, unless something has stopped the walk. -/
def unlessStopped (next : List Outline → Work (List Outline × Option Stop)) :
    List Outline × Option Stop → Work (List Outline × Option Stop)
  | (steps, none) => next steps
  | (steps, some stop) => pure (steps, some stop)

theorem bind_unlessStopped (p : Work (List Outline × Option Stop))
    (f g : List Outline → Work (List Outline × Option Stop)) :
    (p.bind (unlessStopped f)).bind (unlessStopped g) =
      p.bind (unlessStopped fun steps => (f steps).bind (unlessStopped g)) := by
  rw [bind_assoc]
  congr 1
  funext ⟨steps, stop⟩
  cases stop with
  | none | some _ => rfl

mutual

/-- Visit a node on an input, at the end of a path. -/
def visit (w : Workflow) (path : List String) (steps : List Outline) (n : Node) (_hn : n ∈ w.nodes)
    (context : Fields) : Work (List Outline × Option Stop) :=
  if _h : n.id ∈ path then
    pure (steps, some (.ended (.cycle (path.dropWhile (· != n.id) ++ [n.id]) w.id)))
  else if steps.any fun s => s.node == n.id && s.status == .success then pure (steps, none)
  else do
    match ← work n context with
    | .error f =>
      return (steps ++ [.failed n f], some (.ended (.nodeFailed f.shown n.id w.id)))
    | .ok output =>
      follow w (path ++ [n.id]) (steps ++ [.succeeded n output]) context output
        (w.connections.filter fun c => c.source = n.id)
termination_by (away w path, 0)
decreasing_by exact Prod.Lex.left _ _ (away_append_lt _hn _h)

/-- Follow the connections of the node at the end of a path, which had this input and output. -/
def follow (w : Workflow) (path : List String) (steps : List Outline) (context output : Fields)
    (connections : List Connection) : Work (List Outline × Option Stop) :=
  match connections with
  | [] => pure (steps, none)
  | c :: rest =>
    match Condition.hold c.conditions c.logic (.obj context) with
    | .error f => pure (steps, some (.aborted f))
    | .ok false => follow w path (steps ++ [.skipped w c]) context output rest
    | .ok true =>
      match h : w.nodes.find? fun n => n.id = c.target with
      | none => pure (steps, some (.aborted (.nothingHas "id")))
      | some n =>
        (visit w path steps n (List.mem_of_find?_eq_some h) (overlaid context output)).bind
          (unlessStopped fun steps => follow w path steps context output rest)
termination_by (away w path, connections.length + 1)
decreasing_by
  · exact Prod.Lex.right _ (by simp)
  · exact Prod.Lex.right _ (by simp)
  · exact Prod.Lex.right _ (by simp)

end

/-- What the open visits of a path still have to do, the innermost first. -/
def resume (w : Workflow) : List Frame → List Outline → Work (List Outline × Option Stop)
  | [], steps => pure (steps, none)
  | f :: below, steps =>
    (follow w (pathOf (f :: below)) steps f.context f.output f.remaining).bind
      (unlessStopped (resume w below))

section
variable {w : Workflow} {n m : Node} {x y : Fields} {c : Connection} {rest : List Connection}
  {below : List Frame} {steps : List Outline}

theorem resume_nil : resume w (⟨n, x, y, []⟩ :: below) steps = resume w below steps := by
  rw [resume, follow]
  rfl

theorem resume_no (no : Evaluation.result ⟨c, x⟩ = .ok false) :
    resume w (⟨n, x, y, c :: rest⟩ :: below) steps =
      resume w (⟨n, x, y, rest⟩ :: below) (steps ++ [.skipped w c]) := by
  rw [resume, follow, show Condition.hold c.conditions c.logic (.obj x) = .ok false from no]
  rfl

theorem resume_raised {f : Failure} (raises : Evaluation.result ⟨c, x⟩ = .error f) :
    resume w (⟨n, x, y, c :: rest⟩ :: below) steps = pure (steps, some (.aborted f)) := by
  rw [resume, follow, show Condition.hold c.conditions c.logic (.obj x) = .error f from raises]
  rfl

theorem follow_lost {path : List String}
    (yes : Condition.hold c.conditions c.logic (.obj x) = .ok true)
    (target : w.node? c.target = none) :
    follow w path steps x y (c :: rest) = pure (steps, some (.aborted (.nothingHas "id"))) := by
  rw [follow, yes]
  dsimp only
  split
  · rfl
  · next found => cases target.symm.trans found

theorem follow_yes {path : List String}
    (yes : Condition.hold c.conditions c.logic (.obj x) = .ok true)
    (target : w.node? c.target = some n) :
    follow w path steps x y (c :: rest) =
      (visit w path steps n (Graph.mem_nodes_of_node? target) (Key.overlay x y)).bind
        (unlessStopped fun steps => follow w path steps x y rest) := by
  rw [follow, yes]
  dsimp only
  split
  · next found => cases target.symm.trans found
  · next found =>
    cases target.symm.trans found
    rw [overlay_eq_overlaid]

theorem resume_lost (yes : Evaluation.result ⟨c, x⟩ = .ok true)
    (target : w.node? c.target = none) :
    resume w (⟨n, x, y, c :: rest⟩ :: below) steps =
      pure (steps, some (.aborted (.nothingHas "id"))) := by
  rw [resume, follow_lost yes target]
  rfl

theorem visit_back {path : List String} (hn : n ∈ w.nodes) (back : n.id ∈ path) :
    visit w path steps n hn x =
      pure (steps, some (.ended (.cycle (path.dropWhile (· != n.id) ++ [n.id]) w.id))) := by
  rw [visit, dif_pos back]

theorem visit_succeeded {path : List String} {e : Execution} (hn : n ∈ w.nodes)
    (away : n.id ∉ path) (succeeded : (e.successfulStep? n.id).isSome = true) :
    visit w path (outlines e) n hn x = pure (outlines e, none) := by
  rw [visit, dif_neg away, if_pos (by rw [any_outlines, succeeded])]

theorem visit_fresh {path : List String} {e : Execution} (hn : n ∈ w.nodes) (away : n.id ∉ path)
    (fresh : (e.successfulStep? n.id).isSome = false) :
    visit w path (outlines e) n hn x = (perform n x).bind fun
      | .error f =>
        pure (outlines e ++ [.failed n f], some (.ended (.nodeFailed f.shown n.id w.id)))
      | .ok output =>
        follow w (path ++ [n.id]) (outlines e ++ [.succeeded n output]) x output
          (w.outgoing n.id) := by
  rw [visit, dif_neg away, if_neg (by rw [any_outlines, fresh]; exact Bool.false_ne_true),
    perform_eq_work]
  rfl

theorem resume_yes (yes : Evaluation.result ⟨c, x⟩ = .ok true)
    (target : w.node? c.target = some m) :
    resume w (⟨n, x, y, c :: rest⟩ :: below) steps =
      (visit w (pathOf (⟨n, x, y, rest⟩ :: below)) steps m (Graph.mem_nodes_of_node? target)
        (Key.overlay x y)).bind (unlessStopped (resume w (⟨n, x, y, rest⟩ :: below))) := by
  rw [resume, follow_yes yes target]
  exact bind_unlessStopped ..

end

theorem ends_resume_of_turn {w : Workflow} {ticket : Ticket} {s s' : Walk} {u : List Event}
    (h : Turn w ticket s u s') (stored : Stored (exchanges u)) {t : List Exchange}
    {r : List Outline × Option Stop}
    (hr : (resume w s'.frames (outlines s'.record)).Ends t r) :
    (resume w s.frames (outlines s.record)).Ends (invocations (exchanges u) ++ t) r := by
  cases h with
  | leave =>
      rw [resume_nil]
      exact hr
  | skip no skips =>
      have quiet := skips.invocations
      obtain ⟨_, _, rfl⟩ := skips.record
      rw [resume_no no]
      rw [outlines_addStep] at hr
      simpa [invocations_polling, quiet] using hr
  | pass yes target away succeeded =>
      rw [resume_yes yes target, visit_succeeded _ away succeeded]
      exact hr
  | enter yes target away fresh visits =>
      rw [exchanges_stepped] at stored ⊢
      obtain ⟨_, _, _, _, -, h⟩ | ⟨v', work, h⟩ := visits.work (stored_cons.mp stored).2
      · cases h
      cases h
      rw [resume_yes yes target, visit_fresh _ away fresh, Program.bind_assoc]
      -- the new frame stands for the connections that the visit follows
      refine ends_bind.mpr ⟨_, _, t, work, ?_, rfl⟩
      rw [outlines_addStep, resume] at hr
      simpa [pathOf, Frame.enter] using hr

theorem ends_resume_of_halt {w : Workflow} {ticket : Ticket} {s : Walk} {u : List Event}
    {r : Execution × Option Stop} (h : Halt w ticket s u r)
    (uncancelled : Uncancelled (exchanges u)) (stored : Stored (exchanges u)) :
    (resume w s.frames (outlines s.record)).Ends (invocations (exchanges u))
      (outlines r.1, r.2) := by
  cases h with
  | finished => exact ends_pure.mpr ⟨rfl, rfl⟩
  | cancelled => exact absurd (.head _) (uncancelled ticket)
  | raised raises =>
      rw [resume_raised raises]
      exact ends_pure.mpr ⟨rfl, rfl⟩
  | unskipped no skips =>
      rw [exchanges_looked] at stored
      exact absurd (stored_cons.mp stored).2 skips.not_stored
  | lost yes target =>
      rw [resume_lost yes target]
      exact ends_pure.mpr ⟨rfl, rfl⟩
  | cycle yes target back =>
      rw [resume_yes yes target, visit_back _ back]
      exact ends_pure.mpr ⟨rfl, rfl⟩
  | stopped yes target away fresh visits =>
      rw [exchanges_stepped] at stored ⊢
      obtain ⟨f, _, _, _, work, h⟩ | ⟨_, _, h⟩ := visits.work (stored_cons.mp stored).2
      · cases h
        rw [resume_yes yes target, visit_fresh _ away fresh, Program.bind_assoc]
        refine ends_bind.mpr ⟨_, _, [], work, ?_, by simp⟩
        exact ends_pure.mpr ⟨rfl, by simp⟩
      · cases h

theorem ends_resume_of_walks {w : Workflow} {ticket : Ticket} {s : Walk} {u : List Event}
    {r : Execution × Option Stop} (h : Walks w ticket s u r)
    (uncancelled : Uncancelled (exchanges u)) (stored : Stored (exchanges u)) :
    (resume w s.frames (outlines s.record)).Ends (invocations (exchanges u))
      (outlines r.1, r.2) := by
  induction h with
  | halt h => exact ends_resume_of_halt h uncancelled stored
  | turn h _ ih =>
      rw [exchanges_append] at *
      rw [uncancelled_append] at uncancelled
      rw [stored_append] at stored
      rw [invocations_append]
      exact ends_resume_of_turn h stored.1 (ih uncancelled.2 stored.2)

theorem bind_unlessStopped_resume_nil {w : Workflow} (p : Work (List Outline × Option Stop)) :
    p.bind (unlessStopped (resume w [])) = p := by
  have done : unlessStopped (resume w []) = Program.done := by
    funext ⟨steps, stop⟩
    cases stop with
    | none | some _ => rfl
  rw [done, bind_done]

/-- The whole walk on the data of the trigger, from the first trigger. -/
def search (w : Workflow) (data : Fields) : Work (List Outline × Option Stop) :=
  match h : w.nodes.find? Node.isTrigger with
  | none => pure ([], some (.ended (.noTriggerToRun w.id)))
  | some n => visit w [] [] n (List.mem_of_find?_eq_some h) data

theorem search_eq_visit {w : Workflow} {n : Node} {ns : List Node} (first : w.triggers = n :: ns)
    (hn : n ∈ w.nodes) (data : Fields) : search w data = visit w [] [] n hn data := by
  have found : w.nodes.find? Node.isTrigger = some n := by
    rw [← List.head?_filter]
    exact congrArg List.head? first
  unfold search
  split
  · next none => cases found.symm.trans none
  · next other =>
    cases found.symm.trans other
    rfl

theorem ends_search_of_traverses {w : Workflow} {ticket : Ticket} {e : Execution} {u : List Event}
    {r : Execution × Option Stop} (prepared : Prepared w e) (h : Traverses w ticket e u r)
    (uncancelled : Uncancelled (exchanges u)) (stored : Stored (exchanges u)) :
    (search w e.triggerData).Ends (invocations (exchanges u)) (outlines r.1, r.2) := by
  have unstarted : outlines e = [] := by rw [outlines, prepared.unstarted]; rfl
  have visit_first {n : Node} {ns : List Node} (first : w.triggers = n :: ns)
      (fresh : (e.successfulStep? n.id).isSome = false) :=
    (search_eq_visit first (Workflow.mem_nodes_of_triggers first) e.triggerData).trans
      (unstarted ▸ visit_fresh _ List.not_mem_nil fresh)
  cases h with
  | triggerless none =>
      obtain ⟨n, ns, first⟩ := prepared.activatable.trigger
      rw [none] at first
      cases first
  | succeeded first succeeded =>
      rw [Execution.successfulStep?, prepared.unstarted] at succeeded
      cases succeeded
  | stopped first fresh visits =>
      rw [exchanges_begun] at stored ⊢
      obtain ⟨f, _, _, _, work, h⟩ | ⟨_, _, h⟩ := visits.work stored
      · cases h
        rw [visit_first first fresh]
        exact ends_bind.mpr ⟨_, _, [], work, ends_pure.mpr ⟨rfl, by simp [unstarted]⟩, by simp⟩
      · cases h
  | walked first fresh visits walks =>
      rw [exchanges_append, exchanges_begun] at uncancelled stored ⊢
      rw [uncancelled_append] at uncancelled
      rw [stored_append] at stored
      rw [invocations_append]
      have rest := ends_resume_of_walks walks uncancelled.2 stored.2
      obtain ⟨_, _, _, _, -, h⟩ | ⟨v, work, h⟩ := visits.work stored.1
      · cases h
      cases h
      rw [visit_first first fresh]
      rw [resume, bind_unlessStopped_resume_nil, outlines_addStep, unstarted] at rest
      exact ends_bind.mpr ⟨_, _, _, work, rest, rfl⟩

/-- The result of a run whose walk made these steps and then stopped, or did not stop. -/
def Reports (r : Except Failure Execution) (steps : List Outline) : Option Stop → Prop
  | none => ∃ l, r = .ok l ∧ outlines l = steps ∧ l.status = .completed ∧ l.error = none
  | some (.ended err) =>
    ∃ l, r = .ok l ∧ outlines l = steps ∧ l.status = .failed ∧ l.error = some err.message
  | some (.aborted f) => r = .error f

theorem reports_of_concludes {w : Workflow} {ticket : Ticket} {l : Execution} {stop : Option Stop}
    {t : List Exchange} {r : Except Failure Execution}
    (h : Concludes w ticket (l, stop) t r) (stored : Stored t) (unflawed : l.error = none)
    (uncancelled : ∀ err, stop = some (.ended err) → err.kind ≠ .cancelled) :
    Reports r (outlines l) stop := by
  obtain ⟨f, taken, rfl⟩ | ⟨ended, finish, taken, rfl⟩ := h.of_stored stored
  · match stop with
    | some (.aborted g) =>
        cases taken
        rfl
  · match stop with
    | none =>
        cases taken
        exact ⟨_, rfl, rfl, rfl, unflawed⟩
    | some (.ended err) =>
        cases taken
        exact ⟨_, rfl, rfl, if_neg (uncancelled err rfl), rfl⟩

/-- A run that nobody cancels, over a store that saves, is the depth-first search of the workflow:
it makes the search's calls of the dispatcher, on the search's inputs, and reports the search's
steps and end. -/
theorem run_is_search {w : Workflow} {data : Value} {t₀ t : List Exchange} {e : Execution}
    {r : Except Failure Execution} (accepted : (prepare w data).Ends t₀ (.ok e))
    (ran : (run w alone e).Ends t r) (uncancelled : Uncancelled t) (stored : Stored t) :
    ∃ steps stop, (search w e.triggerData).Ends (invocations t) (steps, stop) ∧
      Reports r steps stop := by
  have prepared := prepared_of_ends accepted
  obtain ⟨u, ⟨l, stop⟩, course⟩ := course_of_ends ran
  obtain @⟨ticket, _, _, t, _, traverses, concludes⟩ := course
  rw [uncancelled_append] at uncancelled
  rw [stored_append] at stored
  have uncancelled := (uncancelled_cons.mp uncancelled.1).2
  have walked := (stored_cons.mp stored.1).2
  refine ⟨outlines l, stop, ?_, ?_⟩
  · rw [invocations_append, concludes.invocations, List.append_nil]
    exact ends_search_of_traverses prepared traverses uncancelled walked
  · refine reports_of_concludes concludes stored.2 ?_ fun err h => ?_
    · exact traverses.onlySteps.error.trans prepared.unflawed
    · subst h
      exact traverses.kind_ne_cancelled uncancelled

theorem sample_run_is_search : ∃ r, (run sample alone sampleRecord).Ends sampleRun r ∧
    (invocations sampleRun).length = 2 ∧
    ∃ steps stop, (search sample []).Ends (invocations sampleRun) (steps, stop) ∧
      Reports r steps stop := by
  obtain ⟨r, ran⟩ := sample_ran
  exact ⟨r, ran, by decide +kernel,
    run_is_search sample_prepared ran (uncancelled_calm _) (stored_calm _)⟩

end DepthFirst
end TriggerFlow.Engine
