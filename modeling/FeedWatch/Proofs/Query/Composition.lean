import FeedWatch.Proofs.Query.Meaning
import FeedWatch.Proofs.Text.Lower

/-!
# Composing queries

Query texts can be put together.  A text is lowered as a whole before it is taken apart at its
commas, and lowering a sigma looks at what stands around it; but words end at commas and at
exclamation marks, so each part of a text is lowered as if it stood alone.  Main statement: with a
comma between them two queries become their conjunction, and an exclamation mark in front of a
single clause is its negation (`Query.accepts_compose`).
-/

namespace FeedWatch

variable {index : ReferenceIndex}

/-! ## Texts -/

lemma lower_comma (q₁ q₂ : String) : (Text.lower (q₁ ++ "," ++ q₂)).toList =
    (Text.lower q₁).toList ++ ',' :: (Text.lower q₂).toList := by
  simp only [Text.lower, String.toList_ofList, String.toList_append, List.append_assoc]
  exact Text.lowerFrom_append_break Text.isBreak_comma

lemma lower_negation (q : String) :
    (Text.lower ("!" ++ q)).toList = '!' :: (Text.lower q).toList := by
  simp only [Text.lower, String.toList_ofList, String.toList_append]
  exact Text.lowerFrom_break Text.isBreak_bang

lemma comma_notMem_lower {q : String} (h : ',' ∉ q.toList) : ',' ∉ (Text.lower q).toList := by
  rw [Text.lower, String.toList_ofList]
  exact Text.comma_notMem_lowerFrom h

/-! ## Clauses -/

/-- One more exclamation mark turns a clause round. -/
lemma Clause.compile_negation (segment : List Char) : compile index ('!' :: segment) =
    (compile index segment).map fun c => { c with negated := !c.negated } := by
  rw [compile_eq, compile_eq, readNegations]
  dsimp only
  cases Test.compile index (readNegations segment).2 with
  | error e => rfl
  | ok t => rfl

/-- Of a clause and the clause turned round, exactly one accepts an item. -/
lemma Clause.accepts_negation (c : Clause) (item : Item) :
    accepts { c with negated := !c.negated } item = !c.accepts item := by
  rw [accepts, accepts]
  cases c.negated <;> cases c.test.accepts item <;> rfl

/-! ## Queries -/

namespace Query

lemma compile_comma {q₁ q₂ : String} {c₁ c₂ : Query} (hne₁ : q₁ ≠ "") (hne₂ : q₂ ≠ "")
    (h₁ : compile index q₁ = .ok c₁) (h₂ : compile index q₂ = .ok c₂) :
    compile index (q₁ ++ "," ++ q₂) =
      .ok ⟨q₁ ++ "," ++ q₂, c₁.clauses ++ c₂.clauses⟩ := by
  have hne : q₁ ++ "," ++ q₂ ≠ "" := by
    intro h
    have hcomma := congrArg String.toList h
    simp at hcomma
  rw [compile_eq hne₁] at h₁
  rw [compile_eq hne₂] at h₂
  obtain ⟨clauses₁, hclauses₁, rfl⟩ := Except.map_eq_ok.1 h₁
  obtain ⟨clauses₂, hclauses₂, rfl⟩ := Except.map_eq_ok.1 h₂
  rw [compile_eq hne, lower_comma, List.splitOn_append_cons_self, List.mapM_append, hclauses₁,
    hclauses₂]
  rfl

lemma compile_negation {q : String} {c : Query} (hne : q ≠ "") (hcomma : ',' ∉ q.toList)
    (h : compile index q = .ok c) : ∃ clause, c.clauses = [clause] ∧
      compile index ("!" ++ q) =
        .ok ⟨"!" ++ q, [{ clause with negated := !clause.negated }]⟩ := by
  have hne' : "!" ++ q ≠ "" := by
    intro h
    have hbang := congrArg String.toList h
    simp at hbang
  have hlower := comma_notMem_lower hcomma
  have hlower' : ',' ∉ '!' :: (Text.lower q).toList := by
    rw [List.mem_cons, not_or]
    exact ⟨by decide, hlower⟩
  rw [compile_eq hne, List.splitOn_eq_singleton hlower, Except.map_eq_ok] at h
  obtain ⟨clauses, h, rfl⟩ := h
  obtain ⟨clause, _, hclause, hnil, rfl⟩ := List.forall₂_cons_left_iff.1 (Except.mapM_eq_ok_iff.1 h)
  cases hnil
  refine ⟨clause, rfl, ?_⟩
  rw [compile_eq hne', lower_negation, List.splitOn_eq_singleton hlower', List.mapM_cons,
    Clause.compile_negation, hclause]
  rfl

/-- Two queries with a comma between them accept what both accept, and a query of one clause with an
exclamation mark in front accepts what it does not accept by itself. -/
theorem accepts_compose (index : ReferenceIndex) :
    (∀ q₁ q₂ c₁ c₂, q₁ ≠ "" → q₂ ≠ "" →
      compile index q₁ = .ok c₁ → compile index q₂ = .ok c₂ →
        ∃ c, compile index (q₁ ++ "," ++ q₂) = .ok c ∧
          ∀ item, c.accepts item = (c₁.accepts item && c₂.accepts item)) ∧
      ∀ q c, q ≠ "" → ',' ∉ q.toList → compile index q = .ok c →
        ∃ n, compile index ("!" ++ q) = .ok n ∧ ∀ item, n.accepts item = !c.accepts item := by
  refine ⟨fun q₁ q₂ c₁ c₂ hne₁ hne₂ h₁ h₂ => ?_, fun q c hne hcomma h => ?_⟩
  · refine ⟨_, compile_comma hne₁ hne₂ h₁ h₂, fun item => ?_⟩
    exact List.all_append
  · obtain ⟨clause, hclauses, hn⟩ := compile_negation hne hcomma h
    refine ⟨_, hn, fun item => ?_⟩
    simp only [accepts, hclauses, List.all_cons, List.all_nil, Bool.and_true,
      Clause.accepts_negation]

/-- A word with a sigma at its end, with a number behind it: with a comma and a negation behind that
the item is still accepted, and with an exclamation mark in front of it no longer. -/
theorem accepts_compose_sigma :
    let item : Item := {
      id := "1", enchants := [⟨"νομος", 4⟩], flags := .empty, typeId := 283
      lives := none, maxLives := none, tokens := none, nonce := none, owner := "bob"
      lastSeen := .null, typeName := .null }
    ∃ c₁ c₂, compile .empty "ΝΟΜΟΣ3+" = .ok c₁ ∧ compile .empty "!bow" = .ok c₂ ∧
      (∃ c, compile .empty "ΝΟΜΟΣ3+,!bow" = .ok c ∧ c.accepts item = true) ∧
      ∃ n, compile .empty "!ΝΟΜΟΣ3+" = .ok n ∧ n.accepts item = false := by
  intro item
  have h₁ : compile .empty "ΝΟΜΟΣ3+" =
      .ok ⟨"ΝΟΜΟΣ3+", [⟨false, .enchant "νομος" ⟨.atLeast, 3⟩⟩]⟩ := by decide +kernel
  have h₂ : compile .empty "!bow" = .ok ⟨"!bow", [⟨true, .itemType .bow⟩]⟩ := by decide +kernel
  obtain ⟨c, hc, hboth⟩ := (accepts_compose .empty).1 _ _ _ _ (by decide) (by decide) h₁ h₂
  obtain ⟨n, hn, hnot⟩ := (accepts_compose .empty).2 _ _ (by decide) (by decide) h₁
  refine ⟨_, _, h₁, h₂, ⟨c, hc, ?_⟩, n, hn, ?_⟩
  · rw [hboth]
    decide
  · rw [hnot]
    decide

end Query

end FeedWatch
