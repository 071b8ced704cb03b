import TriggerFlow.Proofs.Text.Pattern
import TriggerFlow.Store.Memory
import TriggerFlow.Store.Sql

/-!
Searches in the two stores. The store in memory looks for the lower case of a text in that of names
and descriptions; the relational one pastes the text into a pattern. They find the same workflows
exactly for texts without pattern characters whose lower case is that of their letters everywhere.
-/

namespace TriggerFlow.Store.Sql

variable {tenant search : String} {status : Option WorkflowStatus} {w : Workflow}

section Meaning

/-- A pattern is matched without regard to case, letter by letter. -/
def Matches (pattern text : String) : Prop := Text.Like pattern.toList text.toList

/-- A condition on the rows of workflows, with the position of the argument it compares with. -/
inductive Clause where
  | tenant (position : Nat)
  | status (position : Nat)
  | mention (position : Nat)

namespace Clause

def text : Clause → String
  | .tenant i => "tenant_id = $" ++ toString (i + 1)
  | .status i => "status = $" ++ toString (i + 1)
  | .mention i =>
    "(name ILIKE $" ++ toString (i + 1) ++ " OR description ILIKE $" ++ toString (i + 1) ++ ")"

/-- A description that is null matches no pattern. -/
def Holds (arguments : List Argument) (w : Workflow) : Clause → Prop
  | .tenant i => arguments[i]? = some (string w.tenant)
  | .status i => arguments[i]? = some (string w.status.name)
  | .mention i => ∃ pattern, arguments[i]? = some (string pattern) ∧
      (Matches pattern w.name ∨ ∃ d, w.description = some d ∧ Matches pattern d)

end Clause

/-- The statement that selects the workflows under all of some conditions. -/
def selection (clauses : List Clause) : String :=
  "SELECT * FROM automation_workflows WHERE " ++ Text.join " AND " (clauses.map Clause.text) ++
    " ORDER BY updated_at DESC"

/-- Whether a query first asks for the workflows under some conditions. -/
def Asks {α : Type} (q : Query α) (clauses : List Clause) (arguments : List Argument) : Prop :=
  ∃ next, q = .call (.send ⟨.fetch, selection clauses, arguments⟩) next

def clauses (status : Option WorkflowStatus) (search : String) : List Clause :=
  .tenant 0 :: (status.map fun _ => .status 1).toList ++
    if search = "" then [] else [.mention (1 + status.toList.length)]

def arguments (tenant : String) (status : Option WorkflowStatus) (search : String) :
    List Argument :=
  string tenant :: (status.map fun s => string s.name).toList ++
    if search = "" then [] else [string (searchPattern search)]

theorem listStatement_eq (tenant : String) (status : Option WorkflowStatus) (search : String) :
    listStatement tenant (status.map WorkflowStatus.name) (some search) =
      .ok ⟨.fetch, selection (clauses status search), arguments tenant status search⟩ := by
  suffices ∃ text, listStatement tenant (status.map WorkflowStatus.name) (some search) =
      .ok ⟨.fetch, text, arguments tenant status search⟩ ∧
      text = selection (clauses status search) by
    obtain ⟨_, made, rfl⟩ := this
    exact made
  -- the text depends on which filters are given alone, so each case is one of closed texts
  by_cases empty : search = ""
  · rcases status with _ | _ | _ | _ <;> subst empty <;> exact ⟨_, rfl, by decide +kernel⟩
  · have given : (some search).filter (· != "") = some search := by simp [empty]
    rcases status with _ | _ | _ | _ <;>
      refine ⟨_, by rw [listStatement, given, arguments, if_neg empty]; rfl, ?_⟩ <;>
      rw [clauses, if_neg empty, Option.isSome_some] <;> decide +kernel

theorem asks_listWorkflows (tenant : String) (status : Option WorkflowStatus) (search : String) :
    Asks (listWorkflows tenant (status.map WorkflowStatus.name) (some search))
      (clauses status search) (arguments tenant status search) := by
  rw [listWorkflows, listStatement_eq]
  exact ⟨_, rfl⟩

/-- Whether a row matches the pattern for a searched text. -/
def Found (search : String) (w : Workflow) : Prop :=
  Matches (searchPattern search) w.name ∨
    ∃ d, w.description = some d ∧ Matches (searchPattern search) d

theorem statusName_inj {s t : WorkflowStatus} : s.name = t.name ↔ s = t := by
  cases s <;> cases t <;> decide

theorem string_inj {s t : String} : string s = string t ↔ s = t :=
  ⟨fun h => Value.str.inj (Argument.value.inj h), congrArg string⟩

theorem holds_clauses :
    (∀ c ∈ clauses status search, c.Holds (arguments tenant status search) w) ↔
      w.tenant = tenant ∧ (∀ s ∈ status, w.status = s) ∧ (search ≠ "" → Found search w) := by
  by_cases empty : search = "" <;> cases status <;>
    simp [clauses, arguments, Clause.Holds, Found, string_inj, statusName_inj, empty, eq_comm]

end Meaning

section Agreement

theorem mem_listWorkflows {m : Memory} :
    w ∈ m.listWorkflows tenant (status.map WorkflowStatus.name) (some search) ↔
      w ∈ m.workflows.values ∧ w.tenant = tenant ∧ (∀ s ∈ status, w.status = s) ∧
        (search ≠ "" → Memory.mentions w search = true) := by
  have named : ∀ s : WorkflowStatus, s.name ≠ "" := by
    intro s
    cases s <;> decide
  by_cases empty : search = "" <;> cases status <;>
    simp [Memory.listWorkflows, Memory.passes, Option.filter_some, named, statusName_inj, empty]

/-- A text contains another in lower case. -/
def Contains (text search : String) : Prop :=
  Text.lowerAfter [] search.toList <:+: Text.lowerAfter [] text.toList

theorem mentions_iff (filled : search ≠ "") : Memory.mentions w search = true ↔
    Contains w.name search ∨ ∃ d, w.description = some d ∧ Contains d search := by
  rw [Memory.mentions, Bool.or_eq_true, Text.contains, Text.contains, Text.isInfix_iff,
    Text.isInfix_iff]
  simp only [Text.lower, String.toList_ofList, Contains]
  refine or_congr_right ?_
  cases w.description with
  | none =>
      have some : Text.lowerAfter [] search.toList ≠ [] := by
        rwa [ne_eq, Text.lowerAfter_eq_nil_iff, String.toList_eq_nil_iff]
      refine iff_of_false (fun inside => some (List.infix_nil.mp inside)) ?_
      rintro ⟨_, absent, _⟩
      cases absent
  | some d => simp

theorem matches_searchPattern (text search : String) :
    Matches (searchPattern search) text ↔ Text.Like (Text.searched search.toList) text.toList := by
  have padded : (searchPattern search).toList = Text.searched search.toList := by
    rw [searchPattern, String.toList_append, String.toList_append]
    rfl
  rw [Matches, padded]

def called (tenant : String) (status : WorkflowStatus) (name : String) : Workflow :=
  { nodes := [], connections := [], id := some "sample", tenant := tenant, name := name,
    description := none, status := status, tags := [], runCount := 0, lastRun := none,
    createdBy := none, createdAt := none, updatedAt := none }

/-- Both stores search alike if names alone are searched alike. -/
theorem agree_iff : (∀ (m : Memory) (w : Workflow),
    w ∈ m.listWorkflows tenant (status.map WorkflowStatus.name) (some search) ↔
      w ∈ m.workflows.values ∧ ∀ c ∈ clauses status search,
        c.Holds (arguments tenant status search) w) ↔
    (search ≠ "" → ∀ text, Contains text search ↔ Matches (searchPattern search) text) := by
  constructor
  · intro agree filled text
    let w := called tenant (status.getD .draft) text
    have here : w ∈ (Memory.mk [("sample", w)] []).workflows.values := List.mem_singleton.mpr rfl
    have filtered : ∀ s ∈ status, w.status = s := fun s given => by cases given; rfl
    have agree := agree ⟨[("sample", w)], []⟩ w
    rw [mem_listWorkflows, holds_clauses, mentions_iff filled] at agree
    have named (P : String → Prop) : (P w.name ∨ ∃ d, w.description = some d ∧ P d) ↔ P text := by
      refine or_iff_left ?_
      rintro ⟨_, absent, _⟩
      cases absent
    rw [named (Contains · search), Found, named (Matches (searchPattern search))] at agree
    constructor
    · exact fun contains => (agree.mp ⟨here, rfl, filtered, fun _ => contains⟩).2.2.2 filled
    · exact fun found => (agree.mpr ⟨here, rfl, filtered, fun _ => found⟩).2.2.2 filled
  · intro alike m w
    rw [mem_listWorkflows, holds_clauses]
    refine and_congr_right fun _ => and_congr_right fun _ => and_congr_right fun _ => ?_
    refine forall_congr' fun filled => ?_
    simp only [mentions_iff filled, Found, alike filled]

/-- Both stores search alike for a text exactly if no character of it means anything in a pattern
and lower case finds it wherever its letters are, and nowhere else. -/
theorem searches_agree_iff (tenant search : String) (status : Option WorkflowStatus) :
    ∃ clauses arguments,
      Asks (listWorkflows tenant (status.map WorkflowStatus.name) (some search)) clauses arguments ∧
      ((∀ (m : Memory) (w : Workflow),
          w ∈ m.listWorkflows tenant (status.map WorkflowStatus.name) (some search) ↔
            w ∈ m.workflows.values ∧ ∀ c ∈ clauses, c.Holds arguments w) ↔
        (∀ c ∈ search.toList, c ≠ '%' ∧ c ≠ '_' ∧ c ≠ '\\') ∧ Text.Steady search.toList) := by
  refine ⟨clauses status search, arguments tenant status search,
    asks_listWorkflows tenant status search, agree_iff.trans ?_⟩
  refine Iff.trans ?_ (Text.like_agrees_iff search.toList)
  simp only [matches_searchPattern, Contains]
  constructor
  · intro alike text
    by_cases empty : search = ""
    · subst empty
      exact iff_of_true List.nil_infix (.any [] .percent)
    · have alike := alike empty (String.ofList text)
      rwa [String.toList_ofList] at alike
  · exact fun alike _ text => alike text.toList

theorem percent_finds_more :
    Asks (listWorkflows "tenant" none (some "50%")) [.tenant 0, .mention 1]
      [string "tenant", string "%50%%"] ∧
    (∀ c ∈ [Clause.tenant 0, .mention 1],
      c.Holds [string "tenant", string "%50%%"] (called "tenant" .draft "500 recipients")) ∧
    Memory.listWorkflows ⟨[("sample", called "tenant" .draft "500 recipients")], []⟩ "tenant" none
      (some "50%") = [] := by
  refine ⟨asks_listWorkflows "tenant" none "50%", ?_, ?_⟩
  · have plain : Text.Plain ['5', '0'] := by
      intro c mem
      rcases List.mem_pair.mp mem with rfl | rfl <;> decide
    have rest : Text.Like ['%', '%'] "0 recipients".toList := .any [] .percent
    have found : Found "50%" (called "tenant" .draft "500 recipients") := by
      refine .inl ((matches_searchPattern _ _).mpr (.any [] ?_))
      exact (Text.Like.plain_append_iff plain).mpr
        ⟨['5', '0'], _, rfl, Text.forall₂_refl _, rest⟩
    exact (@holds_clauses "tenant" "50%" none _).mpr
      ⟨rfl, fun _ given => absurd given (Option.not_mem_none _), fun _ => found⟩
  · decide +kernel

end Agreement

end TriggerFlow.Store.Sql
