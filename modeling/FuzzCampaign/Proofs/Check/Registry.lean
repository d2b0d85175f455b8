import Mathlib.Data.List.Forall2
import Mathlib.Data.List.Nodup
import FuzzCampaign.Proofs.Check.LiveState
import FuzzCampaign.Proofs.TreeConversion
set_option autoImplicit false

/-! # Which definitions are registered

The rules for a definition, said without the order in which they are tried: `Acceptable`. Whatever definitions an
engine is offered, it registers those that follow the rules when their turn comes and no others, so its registry is
the list of them (`registry_is_accepted_definitions`). -/

namespace FuzzCampaign

variable {μ : Type}

/-! ## Legal names -/

/-- A character that names are made of, apart from the space. -/
def NameCharacter (c : Char) : Prop :=
  ('A' ≤ c ∧ c ≤ 'Z') ∨ ('a' ≤ c ∧ c ≤ 'z') ∨ ('0' ≤ c ∧ c ≤ '9') ∨ c ∈ ['.', '_', ':', '/', '-']

/-- A name that a check or a tag may have. -/
structure LegalName (name : String) : Prop where
  nonempty : 1 ≤ name.utf8ByteSize
  short : name.utf8ByteSize ≤ 255
  characters : ∀ c ∈ name.toList, NameCharacter c ∨ c = ' '
  /-- The first character is no space. -/
  start : name.toList.head? ≠ some ' '
  /-- The last character is no space. -/
  ending : name.toList.getLast? ≠ some ' '

theorem isNameChar_iff {c : Char} : isNameChar c = true ↔ NameCharacter c := by
  have hdef : isNameChar c =
      (decide ('A' ≤ c ∧ c ≤ 'Z') || (decide ('a' ≤ c) && decide (c ≤ 'z')) ||
        (decide ('0' ≤ c) && decide (c ≤ '9')) || c == '.' || c == '_' || c == ':' || c == '/' || c == '-') := rfl
  rw [hdef]
  simp only [NameCharacter, Bool.or_eq_true, Bool.and_eq_true, decide_eq_true_eq, beq_iff_eq, List.mem_cons,
    List.not_mem_nil, or_false, or_assoc]

/-- A name character is no space, so a character at an end is tried for being one of them only. -/
theorem not_nameCharacter_space : ¬ NameCharacter ' ' := by
  rw [← isNameChar_iff]
  decide

theorem any_isNameChar_iff {c : Option Char} (hinner : ∀ d, c = some d → NameCharacter d ∨ d = ' ') :
    c.any isNameChar = true ↔ c ≠ none ∧ c ≠ some ' ' := by
  cases c with
  | none => simp
  | some d =>
    simp only [Option.any_some, isNameChar_iff, ne_eq, Option.some.injEq, reduceCtorEq, not_false_eq_true, true_and]
    rcases hinner d rfl with hd | rfl
    · exact iff_of_true hd fun hspace => not_nameCharacter_space (hspace ▸ hd)
    · exact iff_of_false not_nameCharacter_space (not_not.2 rfl)

theorem hasNameShape_iff {name : String} : hasNameShape name = true ↔
    (∀ c ∈ name.toList, NameCharacter c ∨ c = ' ') ∧ name.toList ≠ [] ∧
      name.toList.head? ≠ some ' ' ∧ name.toList.getLast? ≠ some ' ' := by
  have hall : name.toList.all isInnerNameChar = true ↔ ∀ c ∈ name.toList, NameCharacter c ∨ c = ' ' := by
    simp only [List.all_eq_true, isInnerNameChar, Bool.or_eq_true, isNameChar_iff, beq_iff_eq]
  rw [hasNameShape, Bool.and_eq_true, Bool.and_eq_true, hall, and_assoc]
  refine and_congr_right fun hinner => ?_
  rw [any_isNameChar_iff fun d hd => hinner d (List.mem_of_head? hd),
    any_isNameChar_iff fun d hd => hinner d (List.mem_of_getLast? hd)]
  simp only [ne_eq, List.head?_eq_none_iff, List.getLast?_eq_none_iff]
  constructor
  · rintro ⟨⟨hsome, hstart⟩, -, hending⟩
    exact ⟨hsome, hstart, hending⟩
  · rintro ⟨hsome, hstart, hending⟩
    exact ⟨⟨hsome, hstart⟩, hsome, hending⟩

theorem legalName_iff {what name : String} : legalName what name = .ok () ↔ LegalName name := by
  have hempty : name.isEmpty = true ↔ name.utf8ByteSize = 0 := by
    simp [String.isEmpty]
  have hlist : name.toList ≠ [] ↔ name.utf8ByteSize ≠ 0 := by
    simp
  constructor
  · intro h
    unfold legalName at h
    split at h
    · cases h
    next hsome =>
    split at h
    · cases h
    next hshort =>
    split at h
    · cases h
    next hshape =>
    obtain ⟨hcharacters, -, hstart, hending⟩ := hasNameShape_iff.1 (by simpa using hshape)
    rw [hempty] at hsome
    exact ⟨Nat.one_le_iff_ne_zero.2 hsome, Nat.le_of_not_lt hshort, hcharacters, hstart, hending⟩
  · rintro ⟨hnonempty, hshort, hcharacters, hstart, hending⟩
    have hsome : name.utf8ByteSize ≠ 0 := Nat.one_le_iff_ne_zero.1 hnonempty
    have hshape : hasNameShape name = true := hasNameShape_iff.2 ⟨hcharacters, hlist.2 hsome, hstart, hending⟩
    have hfits : ¬ maxNameBytes < name.utf8ByteSize := Nat.not_lt.2 hshort
    rw [legalName, if_neg (mt hempty.1 hsome), if_neg hfits, if_neg (by simp [hshape])]

theorem legalNames_iff {what : String} {names : List String} :
    legalNames what names = .ok () ↔ ∀ name ∈ names, LegalName name := by
  induction names with
  | nil => simp [legalNames]
  | cons name rest ih =>
    rw [legalNames, List.forall_mem_cons, ← ih, ← @legalName_iff what]
    cases legalName what name with
    | error e => simp
    | ok u => simp

namespace CheckEngine

/-! ## The rules for a definition -/

/-- What a definition declares: the one hook it has, which takes one parameter, and the tree its check begins
with. A hook before the request may only be given the empty dictionary, one after the response any literal
dictionary; a check that is given nothing begins with the empty dictionary. -/
inductive Declares (d : CheckDefinition μ) : HookKind → (μ → HookProgram μ) → Tree → Prop
  | before {hook : Hook μ} (one : d.before = some hook) (other : d.after = none) (arity : hook.arity = 1)
      (given : d.state = none ∨ d.state = some (.dict [])) : Declares d .beforeRequest hook.program (.dict [])
  | after {hook : Hook μ} (other : d.before = none) (one : d.after = some hook) (arity : hook.arity = 1)
      (given : d.state = none) : Declares d .afterResponse hook.program (.dict [])
  | afterWith {hook : Hook μ} {entries : List (String × Tree)} (other : d.before = none) (one : d.after = some hook)
      (arity : hook.arity = 1) (given : d.state = some (.dict entries))
      (literal : ∀ node : Tree, node.Holds (.dict entries) → ¬ node.Unwritable) :
      Declares d .afterResponse hook.program (.dict entries)

/-- A definition that follows the rules, when `taken` are the names of the checks there are. -/
structure Acceptable (taken : List String) (d : CheckDefinition μ) : Prop where
  legal : LegalName d.name
  free : d.name ∉ taken
  declares : ∃ kind program state, Declares d kind program state
  tags : ∀ tag ∈ d.tags.toList, LegalName tag

/-- The check is the one that the definition declares. -/
structure Defines (d : CheckDefinition μ) (check : Check μ) : Prop where
  name : check.name = d.name
  tags : check.tags = d.tags
  declared : Declares d check.kind check.program check.state

/-- What is accepted of a sequence of definitions, of which the latest comes first: each that follows the rules when
the names of those accepted before it are taken. -/
inductive Accepts : List (CheckDefinition μ) → List (CheckDefinition μ) → Prop
  | start : Accepts [] []
  | accept {earlier accepted : List (CheckDefinition μ)} {d : CheckDefinition μ} (before : Accepts earlier accepted)
      (follows : Acceptable (accepted.map (·.name)) d) : Accepts (d :: earlier) (accepted ++ [d])
  | refuse {earlier accepted : List (CheckDefinition μ)} {d : CheckDefinition μ} (before : Accepts earlier accepted)
      (breaks : ¬ Acceptable (accepted.map (·.name)) d) : Accepts (d :: earlier) accepted

/-- An engine after registrations, of which the latest comes first. -/
def registered (filter : TagFilter) (limits : CheckLimits) (definitions : List (CheckDefinition μ)) : CheckEngine μ :=
  reached filter limits (definitions.map .register)

theorem Accepts.unique {definitions accepted other : List (CheckDefinition μ)} (h : Accepts definitions accepted)
    (hother : Accepts definitions other) : other = accepted := by
  -- the names taken before the latest definition are the same, so it is accepted in both or in neither
  induction h generalizing other with
  | start =>
    cases hother
    rfl
  | accept before follows ih =>
    cases hother with
    | accept before' follows' => rw [ih before']
    | refuse before' breaks =>
      rw [ih before'] at breaks
      exact absurd follows breaks
  | refuse before breaks ih =>
    cases hother with
    | accept before' follows =>
      rw [ih before'] at follows
      exact absurd follows breaks
    | refuse before' breaks' => exact ih before'

/-! ## Validation follows the rules -/

theorem onlyHook_eq_ok_iff {d : CheckDefinition μ} {kind : HookKind} {hook : Hook μ} :
    onlyHook d = .ok (kind, hook) ↔
      (kind = .beforeRequest ∧ d.before = some hook ∧ d.after = none) ∨
        (kind = .afterResponse ∧ d.before = none ∧ d.after = some hook) := by
  unfold onlyHook
  cases d.before <;> cases d.after <;> simp [eq_comm]

theorem isDict_iff {t : Tree} : t.isDict = true ↔ ∃ entries, t = .dict entries := by
  cases t <;> simp [Tree.isDict]

/-- A dictionary is a state that a check after the response may be given when all its nodes can be written. -/
theorem isDict_isLiteral_iff {state : Tree} :
    (state.isDict = true ∧ state.isLiteral = true) ↔
      (∃ entries, state = .dict entries) ∧ ∀ node : Tree, node.Holds state → ¬ node.Unwritable := by
  rw [isDict_iff, Tree.isLiteral_iff_nodes]

theorem declares_iff {d : CheckDefinition μ} {kind : HookKind} {program : μ → HookProgram μ} {state : Tree} :
    Declares d kind program state ↔
      (∃ hook, onlyHook d = .ok (kind, hook) ∧ hook.arity = 1 ∧ program = hook.program) ∧
        initialState d.name kind d.state = .ok state := by
  constructor
  · rintro (⟨one, other, arity, given⟩ | ⟨other, one, arity, given⟩ | ⟨other, one, arity, given, literal⟩)
    · exact ⟨⟨_, onlyHook_eq_ok_iff.2 (.inl ⟨rfl, one, other⟩), arity, rfl⟩,
        initialState_before_iff.2 ⟨given, rfl⟩⟩
    · exact ⟨⟨_, onlyHook_eq_ok_iff.2 (.inr ⟨rfl, other, one⟩), arity, rfl⟩,
        initialState_after_iff.2 (.inl ⟨given, rfl⟩)⟩
    · exact ⟨⟨_, onlyHook_eq_ok_iff.2 (.inr ⟨rfl, other, one⟩), arity, rfl⟩,
        initialState_after_iff.2 (.inr ⟨given, isDict_isLiteral_iff.2 ⟨⟨_, rfl⟩, literal⟩⟩)⟩
  · rintro ⟨⟨hook, honly, arity, rfl⟩, hstate⟩
    rcases onlyHook_eq_ok_iff.1 honly with ⟨rfl, one, other⟩ | ⟨rfl, other, one⟩
    · obtain ⟨given, rfl⟩ := initialState_before_iff.1 hstate
      exact .before one other arity given
    · rcases initialState_after_iff.1 hstate with ⟨given, rfl⟩ | ⟨given, hdict⟩
      · exact .after other one arity given
      · obtain ⟨⟨entries, rfl⟩, literal⟩ := isDict_isLiteral_iff.1 hdict
        exact .afterWith other one arity given literal

/-- A definition is validated when it follows the rules, as the check it declares. -/
theorem validate_eq_ok_iff_defines {taken : List String} {d : CheckDefinition μ} {check : Check μ} :
    validate taken d = .ok check ↔ Acceptable taken d ∧ Defines d check := by
  rw [validate_eq_ok_iff]
  constructor
  · rintro ⟨hlegal, hfree, hhook, hstate, htags, hname, hchecktags⟩
    have hdeclared : Declares d check.kind check.program check.state := declares_iff.2 ⟨hhook, hstate⟩
    exact ⟨⟨legalName_iff.1 hlegal, hfree, ⟨_, _, _, hdeclared⟩, legalNames_iff.1 htags⟩,
      hname, hchecktags, hdeclared⟩
  · rintro ⟨⟨hlegal, hfree, -, htags⟩, hname, hchecktags, hdeclared⟩
    obtain ⟨hhook, hstate⟩ := declares_iff.1 hdeclared
    exact ⟨legalName_iff.2 hlegal, hfree, hhook, hstate, legalNames_iff.2 htags, hname, hchecktags⟩

theorem Acceptable.exists_defines {taken : List String} {d : CheckDefinition μ} (h : Acceptable taken d) :
    ∃ check, Defines d check := by
  obtain ⟨kind, program, state, hdeclared⟩ := h.declares
  exact ⟨⟨d.name, kind, program, d.tags, state⟩, rfl, rfl, hdeclared⟩

/-! ## Every refusal is about the declaration -/

/-- The step is refused, if at all, because of what was declared. -/
def RefusesDeclaration {α : Type} (x : Except CampaignError α) : Prop :=
  ∀ e, x = .error e → ∃ m, e = .config m

theorem refusesDeclaration_ok {α : Type} (a : α) : RefusesDeclaration (.ok a) := nofun

theorem refusesDeclaration_config {α : Type} (m : String) :
    RefusesDeclaration (.error (.config m) : Except CampaignError α) := by
  rintro e ⟨⟩
  exact ⟨m, rfl⟩

theorem RefusesDeclaration.bind {α β : Type} {x : Except CampaignError α} {next : α → Except CampaignError β}
    (hx : RefusesDeclaration x) (hnext : ∀ a, RefusesDeclaration (next a)) : RefusesDeclaration (x >>= next) := by
  cases x with
  | ok a => exact hnext a
  | error e =>
    rintro e' ⟨⟩
    exact hx e rfl

theorem refusesDeclaration_legalName (what name : String) : RefusesDeclaration (legalName what name) := by
  unfold legalName
  split
  · exact refusesDeclaration_config _
  · split
    · exact refusesDeclaration_config _
    · split
      · exact refusesDeclaration_config _
      · exact refusesDeclaration_ok _

theorem refusesDeclaration_legalNames (what : String) (names : List String) :
    RefusesDeclaration (legalNames what names) := by
  induction names with
  | nil => exact refusesDeclaration_ok _
  | cons name rest ih =>
    rw [legalNames]
    split
    · next e he =>
      rintro e' ⟨⟩
      exact refusesDeclaration_legalName what name e he
    · exact ih

theorem refusesDeclaration_onlyHook (d : CheckDefinition μ) : RefusesDeclaration (onlyHook d) := by
  unfold onlyHook
  split
  · exact refusesDeclaration_ok _
  · exact refusesDeclaration_ok _
  · exact refusesDeclaration_config _
  · exact refusesDeclaration_config _

theorem refusesDeclaration_initialState (name : String) (kind : HookKind) (given : Option Tree) :
    RefusesDeclaration (initialState name kind given) := by
  unfold initialState
  split
  · exact refusesDeclaration_ok _
  · split
    · exact refusesDeclaration_ok _
    · exact refusesDeclaration_config _
  · split
    · exact refusesDeclaration_config _
    · split
      · exact refusesDeclaration_config _
      · exact refusesDeclaration_ok _

theorem refusesDeclaration_validate (taken : List String) (d : CheckDefinition μ) :
    RefusesDeclaration (validate taken d) := by
  unfold validate
  refine (refusesDeclaration_legalName _ _).bind fun _ => ?_
  split
  · exact refusesDeclaration_config _
  refine (refusesDeclaration_onlyHook d).bind fun ⟨kind, hook⟩ => ?_
  dsimp only
  split
  · exact refusesDeclaration_config _
  refine (refusesDeclaration_initialState _ _ _).bind fun _ => ?_
  exact (refusesDeclaration_legalNames _ _).bind fun _ => refusesDeclaration_ok _

/-! ## Registration -/

section
variable (engine : CheckEngine μ) {d : CheckDefinition μ}

/-- A definition that follows the rules is registered as the check it declares, after the others. -/
theorem register_of_acceptable (h : Acceptable (engine.checks.map Check.name) d) :
    ∃ check, Defines d check ∧ engine.register d = .ok { engine with checks := engine.checks ++ [check] } := by
  obtain ⟨check, hdefines⟩ := h.exists_defines
  have hvalid := validate_eq_ok_iff_defines.2 ⟨h, hdefines⟩
  exact ⟨check, hdefines, by rw [register, hvalid]⟩

/-- Any other is refused because of what it declares. -/
theorem register_of_not_acceptable (h : ¬ Acceptable (engine.checks.map Check.name) d) :
    ∃ m, engine.register d = .error (.config m) := by
  cases hvalid : validate (engine.checks.map Check.name) d with
  | ok check => exact absurd (validate_eq_ok_iff_defines.1 hvalid).1 h
  | error e =>
    obtain ⟨m, rfl⟩ := refusesDeclaration_validate _ _ e hvalid
    exact ⟨m, by rw [register, hvalid]⟩

end

theorem map_name_of_defines {definitions : List (CheckDefinition μ)} {checks : List (Check μ)}
    (h : List.Forall₂ Defines definitions checks) : checks.map Check.name = definitions.map (·.name) := by
  induction h with
  | nil => rfl
  | cons hdefines _ ih => rw [List.map_cons, List.map_cons, hdefines.name, ih]

theorem registered_cons (filter : TagFilter) (limits : CheckLimits) (d : CheckDefinition μ)
    (earlier : List (CheckDefinition μ)) :
    registered filter limits (d :: earlier) = (registered filter limits earlier).after (.register d) := rfl

/-- The registry holds the checks of the accepted definitions, and nothing else of the engine changes. -/
theorem exists_accepts_registered (filter : TagFilter) (limits : CheckLimits) (definitions : List (CheckDefinition μ)) :
    ∃ accepted checks, Accepts definitions accepted ∧ List.Forall₂ Defines accepted checks ∧
      registered filter limits definitions = ⟨filter, limits, checks⟩ := by
  -- the names of the checks are those of the accepted definitions, so the engine and the rules agree on the next one
  induction definitions with
  | nil => exact ⟨[], [], .start, .nil, rfl⟩
  | cons d earlier ih =>
    obtain ⟨accepted, checks, haccepts, hdefines, hengine⟩ := ih
    have hnames := map_name_of_defines hdefines
    rw [registered_cons, hengine]
    by_cases hrules : Acceptable (accepted.map (·.name)) d
    · have hregister := register_of_acceptable ⟨filter, limits, checks⟩ (hnames ▸ hrules)
      obtain ⟨check, hcheck, hok⟩ := hregister
      refine ⟨accepted ++ [d], checks ++ [check], .accept haccepts hrules, ?_, by rw [after, hok]⟩
      exact List.rel_append hdefines (.cons hcheck .nil)
    · obtain ⟨m, herror⟩ := register_of_not_acceptable ⟨filter, limits, checks⟩ (hnames ▸ hrules)
      exact ⟨accepted, checks, .refuse haccepts hrules, hdefines, by rw [after, herror]⟩

theorem Accepts.names {definitions accepted : List (CheckDefinition μ)} (h : Accepts definitions accepted) :
    (accepted.map (·.name)).Nodup ∧ ∀ d ∈ accepted, LegalName d.name := by
  induction h with
  | start => exact ⟨.nil, by simp⟩
  | accept _ follows ih =>
    obtain ⟨hnodup, hlegal⟩ := ih
    refine ⟨?_, ?_⟩
    · rw [List.map_append, List.map_singleton, List.nodup_append_comm]
      exact List.nodup_cons.2 ⟨follows.free, hnodup⟩
    · intro d hd
      rcases List.mem_append.1 hd with hd | hd
      · exact hlegal d hd
      · rw [List.mem_singleton.1 hd]
        exact follows.legal
  | refuse _ _ ih => exact ih

/-- **The registry is the list of the accepted definitions.** Whatever definitions a new engine is offered, the rules
alone say which of them are accepted. Its registry holds exactly the checks that these declare, in their order, and
their names are legal and no two are the same. The next definition is registered when it follows the rules; any other
is refused because of what it declares, and the engine stays as it is. -/
theorem registry_is_accepted_definitions (filter : TagFilter) (limits : CheckLimits)
    (definitions : List (CheckDefinition μ)) :
    ∃ accepted, Accepts definitions accepted ∧
      (∀ other, Accepts definitions other → other = accepted) ∧
      List.Forall₂ Defines accepted (registered filter limits definitions).checks ∧
      ((registered filter limits definitions).checks.map Check.name).Nodup ∧
      (∀ check ∈ (registered filter limits definitions).checks, LegalName check.name) ∧
      ∀ d : CheckDefinition μ,
        (Acceptable (accepted.map (·.name)) d → ∃ check, Defines d check ∧
          (registered filter limits definitions).register d = .ok
            ⟨filter, limits, (registered filter limits definitions).checks ++ [check]⟩) ∧
        (¬ Acceptable (accepted.map (·.name)) d →
          (∃ m, (registered filter limits definitions).register d = .error (.config m)) ∧
            registered filter limits (d :: definitions) = registered filter limits definitions) := by
  obtain ⟨accepted, checks, haccepts, hdefines, hengine⟩ := exists_accepts_registered filter limits definitions
  have hnames := map_name_of_defines hdefines
  obtain ⟨hnodup, hlegal⟩ := haccepts.names
  refine ⟨accepted, haccepts, fun _ hother => haccepts.unique hother, ?_, ?_, ?_, fun d => ⟨?_, ?_⟩⟩
  · rwa [hengine]
  · rwa [hengine, hnames]
  · intro check hcheck
    rw [hengine] at hcheck
    have hname : check.name ∈ accepted.map (·.name) := hnames ▸ List.mem_map_of_mem hcheck
    obtain ⟨d, hd, hsame⟩ := List.mem_map.1 hname
    exact hsame ▸ hlegal d hd
  · intro hrules
    rw [hengine]
    exact register_of_acceptable ⟨filter, limits, checks⟩ (hnames ▸ hrules)
  · intro hrules
    rw [registered_cons, hengine]
    obtain ⟨m, herror⟩ := register_of_not_acceptable ⟨filter, limits, checks⟩ (hnames ▸ hrules)
    exact ⟨⟨m, herror⟩, by rw [after, herror]⟩

end CheckEngine

end FuzzCampaign
