import Worksheet.Entry
import Worksheet.Proofs.Evaluation.References
import Worksheet.Proofs.Formula.SingleReference

/-!
# Reference paths

A reference path leads from a formula text to a cell that it names and on through the formulas of
the cells that are followed. The guard of an evaluation is exact (`evaluateCell?_guard`): a formula
has a value only if no path comes back to the target or to a cell of its own and none follows more
cells than the limit, and each of the two failures shows such a path.

The cells in progress are what ties an evaluation to the paths: while the formula of a cell on a
path is evaluated, they are the target and the cells up to that one. A chain of cells that each
refer to the next has a value if there are no more cells to follow than the limit, and is too deep
if there is one more (`evaluateCell?_chain`).
-/

set_option autoImplicit false
set_option relaxedAutoImplicit false

namespace Worksheet

/-- A reference path from a formula text: the first cell is named by the text, and each next one by
the formula of the cell before it, which is followed. -/
inductive ReferencePath (content : Address → Content) : String → List Address → Prop
  | last {text : String} {address : Address} (named : Formula.TextNames text address) :
      ReferencePath content text [address]
  | step {text next : String} {address : Address} {path : List Address}
      (named : Formula.TextNames text address) (followed : content address = .formula next)
      (rest : ReferencePath content next path) : ReferencePath content text (address :: path)

/-- The cells of a path whose formulas are followed. -/
def followedCells (content : Address → Content) (path : List Address) : List Address :=
  path.filter fun address ↦ (content address).isFormula

namespace Context

variable {functions : Functions} {content : Address → Content} {visiting : Visiting}
  {address : Address}

/-! ### Looking up one cell -/

theorem lookup_of_mem (member : address ∈ visiting) :
    lookup functions content visiting address = .error .circularReference := by
  rw [lookup, if_pos member]

theorem lookup_of_value (absent : address ∉ visiting) {value : Value}
    (found : content address = .value value) :
    lookup functions content visiting address = .ok value := by
  rw [lookup, if_neg absent, found]

theorem lookup_of_deep (absent : address ∉ visiting) {text : String}
    (followed : content address = .formula text) (deep : depthLimit < visiting.size) :
    lookup functions content visiting address = .error (.referenceDepthExceeded depthLimit) := by
  rw [lookup, if_neg absent, followed]
  exact if_pos deep

theorem lookup_of_formula (absent : address ∉ visiting) {text : String}
    (followed : content address = .formula text) (shallow : visiting.size ≤ depthLimit) :
    lookup functions content visiting address =
      Formula.textMeaning functions (lookup functions content (visiting.insert address)) text := by
  rw [lookup, if_neg absent, followed]
  exact if_neg (Nat.not_lt.mpr shallow)

/-- What there is to say of a cell that has a value. -/
theorem lookup_eq_ok {value : Value}
    (found : lookup functions content visiting address = .ok value) :
    address ∉ visiting ∧ ∀ text, content address = .formula text →
      visiting.size ≤ depthLimit ∧
        Formula.textMeaning functions (lookup functions content (visiting.insert address)) text =
          .ok value := by
  have absent : address ∉ visiting := by
    intro member
    rw [lookup_of_mem member] at found
    cases found
  refine ⟨absent, fun text followed ↦ ?_⟩
  have shallow : visiting.size ≤ depthLimit := by
    refine Nat.not_lt.mp fun deep ↦ ?_
    rw [lookup_of_deep absent followed deep] at found
    cases found
  rw [lookup_of_formula absent followed shallow] at found
  exact ⟨shallow, found⟩

/-- A failure of a cell is that the cell is in progress, that too many cells are, or that its
formula fails while it is in progress. -/
theorem lookup_eq_error {cause : FormulaError}
    (failed : lookup functions content visiting address = .error cause) :
    (address ∈ visiting ∧ cause = .circularReference) ∨
      address ∉ visiting ∧ ∃ text, content address = .formula text ∧
        (depthLimit < visiting.size ∧ cause = .referenceDepthExceeded depthLimit ∨
          visiting.size ≤ depthLimit ∧ Formula.textMeaning functions
            (lookup functions content (visiting.insert address)) text = .error cause) := by
  by_cases member : address ∈ visiting
  · rw [lookup_of_mem member] at failed
    exact Or.inl ⟨member, (Except.error.inj failed).symm⟩
  refine Or.inr ⟨member, ?_⟩
  match followed : content address with
  | .value value =>
    rw [lookup_of_value member followed] at failed
    cases failed
  | .formula text =>
    refine ⟨text, rfl, ?_⟩
    by_cases deep : depthLimit < visiting.size
    · rw [lookup_of_deep member followed deep] at failed
      exact Or.inl ⟨deep, (Except.error.inj failed).symm⟩
    · have shallow := Nat.not_lt.mp deep
      rw [lookup_of_formula member followed shallow] at failed
      exact Or.inr ⟨shallow, failed⟩

end Context

/-! ### Paths of a formula with a value -/

namespace ReferencePath

variable {functions : Functions} {content : Address → Content}

open Context

/-- When a formula has a value, its paths keep away from the cells in progress and from themselves,
and follow no more cells than may still be in progress. -/
theorem of_ok {text : String} {path : List Address} (whole : ReferencePath content text path) :
    ∀ {visiting : Visiting} {value : Value}, visiting.size ≤ depthLimit + 1 →
      Formula.textMeaning functions (lookup functions content visiting) text = .ok value →
        (∀ address ∈ path, address ∉ visiting) ∧ path.Nodup ∧
          (followedCells content path).length + visiting.size ≤ depthLimit + 1 := by
  induction whole with
  | @last text address named =>
    intro visiting value few found
    obtain ⟨_, looked⟩ := Formula.exists_value_of_ok found named
    obtain ⟨absent, inner⟩ := lookup_eq_ok looked
    refine ⟨by simpa using absent, by simp, ?_⟩
    match followed : content address with
    | .value _ => simpa [followedCells, followed, Content.isFormula] using few
    | .formula next =>
      have shallow := (inner next followed).1
      simp [followedCells, followed, Content.isFormula]
      omega
  | @step text next address path named followed _ ih =>
    intro visiting value few found
    obtain ⟨_, looked⟩ := Formula.exists_value_of_ok found named
    obtain ⟨absent, inner⟩ := lookup_eq_ok looked
    obtain ⟨shallow, nextFound⟩ := inner next followed
    have size := Visiting.size_insert absent
    obtain ⟨away, distinct, count⟩ := ih (by omega) nextFound
    have outside := Visiting.away_of_away_insert away
    refine ⟨?_, List.nodup_cons.mpr ⟨outside.1, distinct⟩, ?_⟩
    · rintro other (_ | ⟨_, member⟩)
      · exact absent
      · exact outside.2 other member
    · simp only [followedCells, List.filter_cons, followed, Content.isFormula, if_true,
        List.length_cons] at count ⊢
      omega

/-! ### Paths of a formula that fails -/

/-- A failure that lies in references starts at the end of a path. The cells before the end are
distinct, followed and new; the end is in progress or on the path before, or it is one more cell to
follow when too many are in progress. -/
theorem exists_of_error (spares : functions.SparesReferences) {visiting : Visiting}
    {text : String} {cause : FormulaError}
    (failed : Formula.textMeaning functions (lookup functions content visiting) text = .error cause)
    (found : cause.OfReferences) :
    ∃ before last, ReferencePath content text (before ++ [last]) ∧ before.Nodup ∧
      (∀ address ∈ before, address ∉ visiting ∧ (content address).isFormula) ∧
      (cause = .circularReference ∧ (last ∈ visiting ∨ last ∈ before) ∨
        cause = .referenceDepthExceeded depthLimit ∧ last ∉ visiting ∧ last ∉ before ∧
          (content last).isFormula ∧ depthLimit < visiting.size + before.length) := by
  obtain ⟨address, named, looked⟩ := Formula.exists_named_of_error spares failed found
  rcases lookup_eq_error looked with
    ⟨member, circular⟩ | ⟨absent, next, followed, ⟨deep, exceeded⟩ | ⟨shallow, inner⟩⟩
  · exact ⟨[], address, .last named, List.nodup_nil, by simp, Or.inl ⟨circular, Or.inl member⟩⟩
  · refine ⟨[], address, .last named, List.nodup_nil, by simp,
      Or.inr ⟨exceeded, absent, by simp, ?_, deep⟩⟩
    rw [followed, Content.isFormula]
  · have size := Visiting.size_insert absent
    obtain ⟨before, last, rest, distinct, fresh, origin⟩ := exists_of_error spares inner found
    have isFormula : (content address).isFormula := by rw [followed, Content.isFormula]
    have away := Visiting.away_of_away_insert fun other member ↦ (fresh other member).1
    refine ⟨address :: before, last, .step named followed rest,
      List.nodup_cons.mpr ⟨away.1, distinct⟩, ?_, ?_⟩
    · rintro other (_ | ⟨_, member⟩)
      · exact ⟨absent, isFormula⟩
      · exact ⟨away.2 other member, (fresh other member).2⟩
    · rw [Visiting.mem_insert, size] at origin
      rw [List.mem_cons, List.length_cons]
      rcases origin with ⟨circular, (same | member) | onPath⟩ | ⟨exceeded, new, off, ends, deep⟩
      · exact Or.inl ⟨circular, Or.inr (Or.inl same)⟩
      · exact Or.inl ⟨circular, Or.inl member⟩
      · exact Or.inl ⟨circular, Or.inr (Or.inr onPath)⟩
      · rw [not_or] at new
        exact Or.inr ⟨exceeded, new.2, not_or.mpr ⟨new.1, off⟩, ends, by omega⟩
termination_by depthLimit + 1 - visiting.size

end ReferencePath

/-! ### Paths and what is on them -/

namespace ReferencePath

/-- A formula has the same value for two contents that agree along its reference paths without cells
in progress. -/
theorem textMeaning_congr {functions : Functions} {one other : Address → Content}
    {visiting : Visiting} {text : String}
    (agree : ∀ path, ReferencePath one text path → (∀ address ∈ path, address ∉ visiting) →
      ∀ address ∈ path, one address = other address) :
    Formula.textMeaning functions (Context.lookup functions one visiting) text =
      Formula.textMeaning functions (Context.lookup functions other visiting) text := by
  refine Formula.textMeaning_congr fun address named ↦ ?_
  by_cases member : address ∈ visiting
  · rw [Context.lookup_of_mem member, Context.lookup_of_mem member]
  have same := agree [address] (.last named) (by simpa using member) address
    (List.mem_singleton_self address)
  match followed : one address with
  | .value value =>
    rw [Context.lookup_of_value member followed, Context.lookup_of_value member (same ▸ followed)]
  | .formula next =>
    by_cases deep : Context.depthLimit < visiting.size
    · rw [Context.lookup_of_deep member followed deep,
        Context.lookup_of_deep member (same ▸ followed) deep]
    · have shallow := Nat.not_lt.mp deep
      have size := Visiting.size_insert member
      rw [Context.lookup_of_formula member followed shallow,
        Context.lookup_of_formula member (same ▸ followed) shallow]
      -- One more cell is in progress, so fewer are left to follow.
      refine textMeaning_congr fun path rest away inner onPath ↦ ?_
      have outside : ∀ reached ∈ address :: path, reached ∉ visiting :=
        List.forall_mem_cons.mpr ⟨member, (Visiting.away_of_away_insert away).2⟩
      exact agree (address :: path) (.step named followed rest) outside inner
        (List.mem_cons_of_mem address onPath)
termination_by Context.depthLimit + 1 - visiting.size

end ReferencePath

/-- A formula has the same value on two sheets that agree along its reference paths without the
target. -/
theorem Sheet.evaluateCell_congr {one other : Sheet} {target : Address} {text : String}
    (agree : ∀ path, ReferencePath one.content text path → target ∉ path →
      ∀ address ∈ path, one.content address = other.content address) :
    one.evaluateCell target text = other.evaluateCell target text := by
  have same : (Context.builtIn one).evaluateCell? target text =
      (Context.builtIn other).evaluateCell? target text := by
    rw [Context.evaluateCell?_eq, Context.evaluateCell?_eq]
    refine ReferencePath.textMeaning_congr fun path whole away ↦ ?_
    exact agree path whole fun reached ↦
      away target reached (Visiting.mem_ofList_singleton.mpr rfl)
  rw [evaluateCell, Context.evaluateCell, same]
  rfl

/-! ### A chain of references -/

namespace Context

variable {functions : Functions}

/-- The place of a cell of a chain. -/
def chainPlace (row : Nat) : Address := ⟨.ofNat row, 0⟩

/-- A chain of references: a text in the first cell of a column and, below it, a number of cells
that each refer to the one above. -/
def chain : Nat → Sheet
  | 0 => Sheet.new.setValueAt (chainPlace 0) (.text "x")
  | length + 1 => (chain length).put
      (Cell.ofFormula (chainPlace (length + 1)) ("=" ++ (chainPlace length).toA1) .empty)

theorem chainPlace_ne {row other : Nat} (less : row < other) (few : other < 4294967296) :
    chainPlace row ≠ chainPlace other := by
  intro same
  have rows := congrArg (fun place : Address ↦ place.row.toNat) same
  simp only [chainPlace, UInt32.toNat_ofNat'] at rows
  omega

/-- A further cell of a chain leaves the cells above as they are. -/
theorem content_chain_succ {length row : Nat} (few : length + 1 < 4294967296)
    (above : row ≤ length) :
    (chain (length + 1)).content (chainPlace row) = (chain length).content (chainPlace row) := by
  refine Sheet.content_eq_of_cell? ?_
  rw [chain, Sheet.cell?_put]
  exact if_neg (chainPlace_ne (Nat.lt_succ_of_le above) few).symm

theorem content_chain_first {length : Nat} (few : length < 4294967296) :
    (chain length).content (chainPlace 0) = .value (.text "x") := by
  induction length with
  | zero => rfl
  | succ length ih => rw [content_chain_succ few (Nat.zero_le length), ih (by omega)]

theorem content_chain_later {length row : Nat} (few : length < 4294967296)
    (within : row < length) : (chain length).content (chainPlace (row + 1)) =
      .formula ("=" ++ (chainPlace row).toA1) := by
  induction length with
  | zero => exact absurd within (Nat.not_lt_zero row)
  | succ length ih =>
    rcases Nat.lt_succ_iff_lt_or_eq.mp within with above | rfl
    · rw [content_chain_succ few above, ih (by omega) above]
    · refine Sheet.content_of_followed ?_ fun own ↦ ?_
      · rw [chain, Sheet.formula?, Sheet.cell?_put]
        exact congrArg (Option.bind · Cell.formula) (if_pos rfl)
      · rw [Formula.body_equals_toA1] at own
        exact chainPlace_ne (Nat.lt_succ_self row) few (Address.toA1_injective own)

theorem textMeaning_equals_toA1 (look : Lookup) (address : Address) :
    Formula.textMeaning functions look ("=" ++ address.toA1) = look address := by
  rw [Formula.textMeaning, Formula.read_equals_toA1]
  rfl

/-- A cell of a chain has the text at its beginning, unless too many cells are followed up to
there. -/
theorem lookup_chain {length : Nat} (few : length < 4294967296) (row : Nat) :
    ∀ visiting : Visiting, row ≤ length → visiting.size ≤ depthLimit + 1 →
      (∀ other ≤ row, chainPlace other ∉ visiting) →
        lookup functions (chain length).content visiting (chainPlace row) =
          if row + visiting.size ≤ depthLimit + 1 then .ok (.text "x")
          else .error (.referenceDepthExceeded depthLimit) := by
  induction row with
  | zero =>
    intro visiting _ shallow away
    rw [lookup_of_value (away 0 (Nat.le_refl 0)) (content_chain_first few),
      if_pos (by omega)]
  | succ row ih =>
    intro visiting within shallow away
    have absent := away (row + 1) (Nat.le_refl _)
    have followed := content_chain_later few within
    by_cases deep : depthLimit < visiting.size
    · rw [lookup_of_deep absent followed deep, if_neg (by omega)]
    · have size := Visiting.size_insert absent
      rw [lookup_of_formula absent followed (Nat.not_lt.mp deep), textMeaning_equals_toA1,
        ih _ (Nat.le_of_succ_le within) (by rw [size]; omega) ?above, size]
      case above =>
        intro other above member
        rcases Visiting.mem_insert.mp member with same | before
        · exact chainPlace_ne (Nat.lt_succ_of_le above) (by omega) same
        · exact away other (Nat.le_succ_of_le above) before
      exact ite_congr (propext (by omega)) (fun _ ↦ rfl) fun _ ↦ rfl

/-- The limit on the cells that are followed is exact: a formula that refers to the end of a chain
has the text at its beginning if there are no more cells to follow than that, and is too deep if
there are more. -/
theorem evaluateCell?_chain {length : Nat} (few : length < 4294967296) {target : Address}
    (apart : target.column ≠ 0) : (builtIn (chain length)).evaluateCell? target
      ("=" ++ (chainPlace length).toA1) =
        if length ≤ depthLimit then .ok (.text "x")
        else .error (.referenceDepthExceeded depthLimit) := by
  have size := Visiting.size_ofList_singleton target
  rw [evaluateCell?_eq, textMeaning_equals_toA1]
  refine (lookup_chain few length _ (Nat.le_refl length) (by rw [size]; decide) ?_).trans ?_
  · intro other _ member
    rw [Visiting.mem_ofList_singleton] at member
    exact apart (congrArg Address.column member).symm
  · rw [size]
    exact ite_congr (propext (by omega)) (fun _ ↦ rfl) fun _ ↦ rfl

/-! ### The guard -/

/-- The guard of an evaluation is exact. When a formula has a value as the content of a target, no
reference path from it reaches the target or a cell twice, and none follows more than 256 cells.
When it fails as circular, some path reaches the target or a cell twice; cells that are only shared
by several paths are no cause. When it fails as too deep, some path follows more than 256 distinct
cells. The functions may be any that do not fail for these two causes by themselves, such as the
built-in ones. -/
theorem evaluateCell?_guard {context : Context} (spares : context.functions.SparesReferences)
    (target : Address) (text : String) :
    (∀ value, context.evaluateCell? target text = .ok value →
      ∀ path, ReferencePath context.sheet.content text path →
        target ∉ path ∧ path.Nodup ∧ (followedCells context.sheet.content path).length ≤ 256) ∧
    (context.evaluateCell? target text = .error .circularReference →
      ∃ path, ReferencePath context.sheet.content text path ∧ (target ∈ path ∨ ¬ path.Nodup)) ∧
    ((∀ path, ReferencePath context.sheet.content text path → target ∉ path ∧ path.Nodup) →
      context.evaluateCell? target text ≠ .error .circularReference) ∧
    (∀ limit, context.evaluateCell? target text = .error (.referenceDepthExceeded limit) →
      ∃ path, ReferencePath context.sheet.content text path ∧
        (followedCells context.sheet.content path).Nodup ∧
          256 < (followedCells context.sheet.content path).length) := by
  rw [evaluateCell?_eq]
  have size := Visiting.size_ofList_singleton target
  have circular (failed : Formula.textMeaning context.functions (lookup context.functions
      context.sheet.content (Std.ExtTreeSet.ofList [target])) text = .error .circularReference) :
      ∃ path, ReferencePath context.sheet.content text path ∧ (target ∈ path ∨ ¬ path.Nodup) := by
    obtain ⟨before, last, path, _, _, ⟨_, back⟩ | ⟨exceeded, _⟩⟩ :=
      ReferencePath.exists_of_error spares failed trivial
    · refine ⟨before ++ [last], path, ?_⟩
      rcases back with member | onPath
      · rw [Visiting.mem_ofList_singleton] at member
        exact Or.inl (by simp [member])
      · refine Or.inr fun distinct ↦ ?_
        exact (List.nodup_append.mp distinct).2.2 last onPath last
          (List.mem_singleton_self last) rfl
    · cases exceeded
  refine ⟨fun value found path whole ↦ ?_, circular, fun apart failed ↦ ?_, fun limit failed ↦ ?_⟩
  · obtain ⟨away, distinct, count⟩ := whole.of_ok (by rw [size]; decide) found
    rw [size] at count
    refine ⟨fun member ↦ ?_, distinct, Nat.le_of_succ_le_succ count⟩
    exact away target member (Visiting.mem_ofList_singleton.mpr rfl)
  · obtain ⟨path, whole, reached | repeated⟩ := circular failed
    · exact (apart path whole).1 reached
    · exact repeated (apart path whole).2
  · obtain ⟨before, last, path, distinct, fresh, ⟨circular, _⟩ | ⟨_, _, off, ends, deep⟩⟩ :=
      ReferencePath.exists_of_error spares failed trivial
    · cases circular
    · have all : followedCells context.sheet.content (before ++ [last]) = before ++ [last] := by
        refine List.filter_eq_self.mpr fun address member ↦ ?_
        rcases List.mem_append.mp member with onPath | final
        · exact (fresh address onPath).2
        · rw [List.mem_singleton.mp final]
          exact ends
      refine ⟨before ++ [last], path, ?_, ?_⟩
      · rw [all, List.nodup_append]
        refine ⟨distinct, by simp, fun address onPath other final same ↦ ?_⟩
        rw [List.mem_singleton.mp final] at same
        rw [same] at onPath
        exact off onPath
      · rw [all, List.length_append, List.length_singleton]
        rw [size] at deep
        unfold depthLimit at deep
        omega

/-- All three outcomes along chains: a value at the limit, a chain that is too deep by one cell, and
a reference that comes back to the cell itself. -/
theorem evaluateCell?_guard_along_chain :
    let shallow := builtIn (chain 256)
    let deep := builtIn (chain 257)
    shallow.evaluateCell? ⟨0, 1⟩ "=A257" = .ok (.text "x") ∧
      (∀ path, ReferencePath shallow.sheet.content "=A257" path →
        (followedCells shallow.sheet.content path).length ≤ 256) ∧
      deep.evaluateCell? ⟨0, 1⟩ "=A258" = .error (.referenceDepthExceeded 256) ∧
      (∃ path, ReferencePath deep.sheet.content "=A258" path ∧
        256 < (followedCells deep.sheet.content path).length) ∧
      deep.evaluateCell? ⟨1, 0⟩ "=A3" = .error .circularReference ∧
      ∃ path, ReferencePath deep.sheet.content "=A3" path ∧ (⟨1, 0⟩ ∈ path ∨ ¬ path.Nodup) := by
  intro shallow deep
  have last : "=" ++ (chainPlace 256).toA1 = "=A257" := by
    rw [Address.toA1_of_single_letter (by decide)]
    rfl
  have further : "=" ++ (chainPlace 257).toA1 = "=A258" := by
    rw [Address.toA1_of_single_letter (by decide)]
    rfl
  have third : "=" ++ (chainPlace 2).toA1 = "=A3" := by
    rw [Address.toA1_of_single_letter (by decide)]
    rfl
  have value : shallow.evaluateCell? ⟨0, 1⟩ "=A257" = .ok (.text "x") := by
    rw [← last, evaluateCell?_chain (by decide) (by decide)]
    rfl
  have exceeded : deep.evaluateCell? ⟨0, 1⟩ "=A258" = .error (.referenceDepthExceeded 256) := by
    rw [← further, evaluateCell?_chain (by decide) (by decide)]
    rfl
  have circular : deep.evaluateCell? ⟨1, 0⟩ "=A3" = .error .circularReference := by
    rw [← third, evaluateCell?_eq, textMeaning_equals_toA1]
    have followed : deep.sheet.content (chainPlace 2) = _ :=
      content_chain_later (by decide) (by decide)
    rw [lookup_of_formula (by decide) followed (by decide), textMeaning_equals_toA1]
    exact lookup_of_mem (by decide)
  refine ⟨value, fun path whole ↦ ?_, exceeded, ?_, circular, ?_⟩
  · exact ((evaluateCell?_guard (sparesReferences_builtIn _) _ _).1 _ value path whole).2.2
  · obtain ⟨path, whole, _, more⟩ :=
      (evaluateCell?_guard (sparesReferences_builtIn _) _ _).2.2.2 256 exceeded
    exact ⟨path, whole, more⟩
  · exact (evaluateCell?_guard (sparesReferences_builtIn _) _ _).2.1 circular

end Context

end Worksheet
