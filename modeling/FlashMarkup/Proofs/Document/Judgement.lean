import FlashMarkup.Proofs.Document.Attributes
import FlashMarkup.Proofs.Document.Statement

/-!
# Running a script judges its statements

Each check decides about one statement: it goes through if the statement is true of what it is
about, and fails with the complaint about it otherwise. A script goes from check to check as its
statements are listed, so running it is judging them. An index that leads to no element ends the run
before anything is stated about what is below it.
-/

namespace FlashMarkup.Expectation

variable {root : Focus}

/-- A condition that says whether a statement is true decides about it, with its complaint. -/
theorem decides_ensure {focus : Focus} {statement : Statement} {condition : Bool}
    (means : condition = true ↔ focus.Satisfies statement) :
    focus.Decides statement (ensure condition (focus.complaint statement)) := by
  unfold Focus.Decides
  rw [← means]
  cases condition <;> simp [ensure]

/-- The number of children is checked as it is stated. -/
theorem decides_childCount (focus : Focus) (count : Nat) :
    focus.Decides (.childCount count) (checkChildCount ⟨focus.place, focus.children⟩ count) :=
  decides_ensure beq_iff_eq

/-- Going on with a child that is there is going on with it. -/
theorem childAt_bind_some {α : Type} {place : Text} {children : List Node} {index : Nat} {node : Node}
    (child : children[index]? = some node) (proceed : Node → Except Text α) :
    (childAt place children index >>= proceed) = proceed node := by
  rw [childAt, child]
  rfl

/-- Going on with a child that is not there fails, and names the place that was given. -/
theorem childAt_bind_none {α : Type} (focus : Focus) (place : Text) {index : Nat}
    (child : focus.children[index]? = none) (proceed : Node → Except Text α) :
    (childAt place focus.children index >>= proceed) = .error (focus.missing place index) := by
  rw [childAt, child]
  rfl

/-- The content of a child is checked by looking for content of a kind.

    Texts and comments differ in nothing but the kind and the content that is looked for. -/
theorem decides_content (focus : Focus) (kind : Text) (contentOf : Node → Option Text)
    (index : Nat) (content : Text) {statement : Statement}
    (means : focus.Satisfies statement ↔
      ∃ node, focus.children[index]? = some node ∧ contentOf node = some content)
    (complains : focus.complaint statement = focus.wrongContent kind contentOf index content)
    {proceed : Node → Except Text Unit}
    (proceeds : ∀ node, proceed node =
      match contentOf node with
      | some found =>
        ensure (found == content)
          (mismatch (childPlace focus.place index ++ (": " ++ kind ++ " mismatch")) found.quoted
            content.quoted)
      | none =>
        .error (childPlace focus.place index ++ (": expected " ++ kind ++ ", found ") ++
          nodeSummary node)) :
    focus.Decides statement (childAt focus.place focus.children index >>= proceed) := by
  unfold Focus.wrongContent at complains
  cases child : focus.children[index]? with
  | none =>
    rw [child] at means complains
    refine .inr ⟨fun holds => ?_, ?_⟩
    · obtain ⟨node, found, -⟩ := means.mp holds
      contradiction
    · rw [childAt_bind_none focus focus.place child, complains]
  | some node =>
    rw [child] at means complains
    rw [childAt_bind_some child, proceeds]
    cases has : contentOf node with
    | none =>
      dsimp only at complains
      rw [has] at complains
      refine .inr ⟨fun holds => ?_, congrArg Except.error complains.symm⟩
      obtain ⟨other, same, found⟩ := means.mp holds
      rw [← Option.some.inj same, has] at found
      contradiction
    | some found =>
      dsimp only at complains
      rw [has] at complains
      dsimp only at complains ⊢
      rw [← complains]
      refine decides_ensure ?_
      rw [means, beq_iff_eq]
      constructor
      · rintro rfl
        exact ⟨node, rfl, has⟩
      · rintro ⟨other, same, equal⟩
        rw [← Option.some.inj same, has] at equal
        exact Option.some.inj equal

/-- A text is checked as it is stated. -/
theorem decides_text (focus : Focus) (index : Nat) (content : Text) :
    focus.Decides (.text index content) (checkText ⟨focus.place, focus.children⟩ index content) := by
  refine decides_content focus "text" Focus.textOf index content ?_ rfl fun node => ?_
  · constructor
    · rintro ⟨position, child⟩
      exact ⟨_, child, rfl⟩
    · rintro ⟨node, child, same⟩
      cases node with
      | text found position =>
        obtain rfl := Option.some.inj same
        exact ⟨position, child⟩
      | element => contradiction
      | comment => contradiction
  · cases node <;> rfl

/-- A comment is checked as it is stated. -/
theorem decides_comment (focus : Focus) (index : Nat) (content : Text) :
    focus.Decides (.comment index content)
      (checkComment ⟨focus.place, focus.children⟩ index content) := by
  refine decides_content focus "comment" Focus.commentOf index content ?_ rfl fun node => ?_
  · constructor
    · rintro ⟨position, child⟩
      exact ⟨_, child, rfl⟩
    · rintro ⟨node, child, same⟩
      cases node with
      | comment found position =>
        obtain rfl := Option.some.inj same
        exact ⟨position, child⟩
      | element => contradiction
      | text => contradiction
  · cases node <;> rfl

/-- The element at an index is found if it is stated truly that there is one; then it is what the
    index leads to. -/
theorem elementAt_cases (focus : Focus) (index : Nat) :
    (∃ subject, elementAt ⟨focus.place, focus.children⟩ index = .ok subject ∧
        focus.Satisfies (.element index) ∧ focus.below index = some (.ofSubject subject)) ∨
      ¬ focus.Satisfies (.element index) ∧
        elementAt ⟨focus.place, focus.children⟩ index =
          .error (focus.complaint (.element index)) := by
  cases child : focus.children[index]? with
  | none =>
    have complains : focus.complaint (.element index) =
        focus.missing (childPlace focus.place index) index := by
      simp only [Focus.complaint, child]
    refine .inr ⟨?_, (childAt_bind_none focus _ child _).trans (congrArg _ complains.symm)⟩
    rintro ⟨tag, attributes, children, position, found⟩
    rw [child] at found
    contradiction
  | some node =>
    have complains : focus.complaint (.element index) =
        childPlace focus.place index ++ ": expected an element, found " ++ nodeSummary node := by
      simp only [Focus.complaint, child]
    have proceeds := fun proceed : Node → Except Text Subject =>
      @childAt_bind_some _ (childPlace focus.place index) _ _ _ child proceed
    cases node with
    | element tag attributes children position =>
      refine .inl ⟨_, proceeds _, ⟨tag, attributes, children, position, child⟩, ?_⟩
      rw [Focus.below, child]
      rfl
    | text content position =>
      refine .inr ⟨?_, (proceeds _).trans (congrArg _ complains.symm)⟩
      rintro ⟨tag, attributes, children, position, found⟩
      cases child.symm.trans found
    | comment content position =>
      refine .inr ⟨?_, (proceeds _).trans (congrArg _ complains.symm)⟩
      rintro ⟨tag, attributes, children, position, found⟩
      cases child.symm.trans found

/-- The tag of an element is checked as it is stated. -/
theorem decides_tag (subject : Subject) (name : Text) :
    (Focus.ofSubject subject).Decides (.tag name) (checkTag subject name) := by
  refine decides_ensure ?_
  rw [beq_iff_eq]
  constructor
  · rintro rfl
    exact ⟨subject.attributes, rfl⟩
  · rintro ⟨attributes, same⟩
    exact congrArg Prod.fst (Option.some.inj same)

/-- The value of an attribute is checked as it is stated. -/
theorem decides_attributeValue (subject : Subject) (name value : Text) :
    (Focus.ofSubject subject).Decides (.attributeValue name value)
      (checkAttributeValue subject name value) := by
  have means : (Focus.ofSubject subject).Satisfies (.attributeValue name value) ↔
      subject.attributes.get? name = some value := by
    rw [Attributes.get?_eq_some_iff]
    constructor
    · rintro ⟨tag, attributes, same, member⟩
      obtain ⟨-, rfl⟩ := Prod.mk.inj (Option.some.inj same)
      exact member
    · intro member
      exact ⟨subject.tag, subject.attributes, rfl, member⟩
  unfold checkAttributeValue
  cases found : subject.attributes.get? name with
  | none =>
    refine .inr ⟨by simp [means, found], ?_⟩
    simp only [Focus.complaint, Focus.ofSubject, Option.map_some, Option.getD_some, found]
  | some other =>
    have complains : (Focus.ofSubject subject).complaint (.attributeValue name value) =
        mismatch
          (subject.place ++ ": attribute '" ++ name ++ "' expected '" ++ value ++ "', found '" ++
            other ++ "'")
          other.quoted value.quoted := by
      simp only [Focus.complaint, Focus.ofSubject, Option.map_some, Option.getD_some, found]
    dsimp only
    rw [← complains]
    refine decides_ensure ?_
    rw [means, found, beq_iff_eq, Option.some_inj]

/-- The number of attributes is checked as it is stated. -/
theorem decides_attributeCount (subject : Subject) (count : Nat) :
    (Focus.ofSubject subject).Decides (.attributeCount count) (checkAttributeCount subject count) := by
  refine decides_ensure ?_
  rw [beq_iff_eq]
  constructor
  · intro same
    exact ⟨subject.tag, subject.attributes, rfl, same⟩
  · rintro ⟨tag, attributes, same, size⟩
    obtain ⟨-, rfl⟩ := Prod.mk.inj (Option.some.inj same)
    exact size

/-! ## Scripts judge what they state -/

/-- One index more leads from an element to its child. -/
theorem at?_append (root : Focus) (address : List Nat) (index : Nat) :
    root.at? (address ++ [index]) = (root.at? address).bind fun focus => focus.below index := by
  induction address generalizing root with
  | nil =>
    exact Option.bind_fun_some _
  | cons first rest ih =>
    simp only [List.cons_append, Focus.at?, ih, Option.bind_assoc]

mutual

/-- Checking an expectation judges what it states. -/
theorem judged_check {address : List Nat} {focus : Focus} (found : root.at? address = some focus)
    (expectation : Expectation) :
    Judged root (statements address expectation)
      (check ⟨focus.place, focus.children⟩ expectation) := by
  match expectation with
  | .childCount count => exact judged_single found (decides_childCount focus count)
  | .text index content => exact judged_single found (decides_text focus index content)
  | .comment index content => exact judged_single found (decides_comment focus index content)
  | .element index script =>
    rw [statements, check]
    rcases elementAt_cases focus index with ⟨subject, leads, holds, below⟩ | ⟨fails, leads⟩
    · have reached : root.at? (address ++ [index]) = some (.ofSubject subject) := by
        rw [at?_append, found]
        exact below
      rw [leads]
      exact .holds ⟨focus, found, holds⟩ (judged_checkElementAll reached script)
    · rw [leads]
      rw [← holds_iff found] at fails
      exact .fails fails (complaint?_eq found (.element index))

/-- Checking an expectation on an element judges what it states. -/
theorem judged_checkElement {address : List Nat} {subject : Subject}
    (found : root.at? address = some (.ofSubject subject)) (expectation : ElementExpectation) :
    Judged root (elementStatements address expectation) (checkElement subject expectation) := by
  match expectation with
  | .within expectation => exact judged_check found expectation
  | .tag name => exact judged_single found (decides_tag subject name)
  | .attributeValue name value => exact judged_single found (decides_attributeValue subject name value)
  | .attributeCount count => exact judged_single found (decides_attributeCount subject count)

/-- Checking expectations on an element judges what they state. -/
theorem judged_checkElementAll {address : List Nat} {subject : Subject}
    (found : root.at? address = some (.ofSubject subject)) (script : List ElementExpectation) :
    Judged root (elementStatementsAll address script) (checkElementAll subject script) := by
  match script with
  | [] => exact .none
  | expectation :: rest =>
    rw [elementStatementsAll, checkElementAll]
    exact (judged_checkElement found expectation).bind (judged_checkElementAll found rest)

end

/-- Checking a script judges what it states. -/
theorem judged_checkAll (found : root.at? address = some focus) (script : List Expectation) :
    Judged root (statementsAll address script)
      (checkAll ⟨focus.place, focus.children⟩ script) := by
  induction script with
  | nil => exact .none
  | cons expectation rest ih => exact (judged_check found expectation).bind ih

/-- A document meets expectations with a result exactly if that comes of judging what they state. -/
theorem meets_eq_iff (document : Document) (script : List Expectation) (result : Except Text Unit) :
    document.meets script = result ↔
      Judged (.ofDocument document) (statementsAll [] script) result := by
  have root : (Focus.ofDocument document).at? [] = some (.ofDocument document) := rfl
  have judged : Judged (.ofDocument document) (statementsAll [] script) (document.meets script) :=
    judged_checkAll root script
  constructor
  · rintro rfl
    exact judged
  · exact judged.unique

/-- A document meets expectations exactly if all that they state is true. -/
theorem meets_eq_ok_iff (document : Document) (script : List Expectation) :
    document.meets script = .ok () ↔
      ∀ stated ∈ statementsAll [] script, stated.Holds (.ofDocument document) :=
  (meets_eq_iff document script _).trans (judged_ok_iff _)

end FlashMarkup.Expectation
