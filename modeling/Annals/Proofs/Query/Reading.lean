import Annals.Proofs.Outcome

/-!
# What the reader of terms reads

`Factory.operandOf` keeps a list of the groups that are open, and no tree. The theorems here say
that it reads the grammar of `Annals.Query.Grammar` nevertheless, for every factory.

* `Unfinished` relates the open groups to the terms that they are the beginnings of. It is the
  invariant of the reader.
* `Factory.operandOf_sound`: what has been read is the tokens of one operand, nested no deeper
  than the limit, and the result is what the factory builds of that operand.
* `Factory.operandOf_tokens`: the tokens of an operand that is not nested too deeply are read as
  that operand, wherever they stand.
* `Factory.ofTokens_iff` puts both together for the tokens of a whole query.
-/

set_option autoImplicit false

namespace Annals

namespace Operator

/-- An operator that is found under a name has that name. -/
theorem name_ofName (name : String) : (ofName name).name = name := by
  unfold ofName
  cases found : catalogue.find? (·.name == name) with
  | none => rfl
  | some op =>
    have named := List.find?_some found
    exact eq_of_beq named

/-- Whether a name that belongs to the catalogue is given to an operator outside of it. -/
def isMisnamed (op : Operator) : Bool :=
  ofName op.name != op

theorem isMisnamed_ofName (name : String) : (ofName name).isMisnamed = false := by
  unfold isMisnamed
  rw [name_ofName, bne_self_eq_false]

theorem ofName_name {op : Operator} (named : op.isMisnamed = false) : ofName op.name = op := by
  unfold isMisnamed at named
  exact bne_eq_false_iff_eq.mp named

end Operator

namespace Term

theorem operandsTokens_append (operands more : List (Operand Term)) :
    operandsTokens (operands ++ more) = operandsTokens operands ++ operandsTokens more := by
  induction operands with
  | nil => rfl
  | cons operand rest ih =>
    simp only [List.cons_append, operandsTokens]
    rw [ih, List.append_assoc]

theorem operandsDepth_append (operands more : List (Operand Term)) :
    operandsDepth (operands ++ more) = max (operandsDepth operands) (operandsDepth more) := by
  induction operands with
  | nil =>
    simp only [List.nil_append, operandsDepth]
    omega
  | cons operand rest ih =>
    simp only [List.cons_append, operandsDepth]
    rw [ih]
    omega

theorem anyOperatorIn_append (sort : Operator → Bool) (operands more : List (Operand Term)) :
    anyOperatorIn sort (operands ++ more)
      = (anyOperatorIn sort operands || anyOperatorIn sort more) := by
  induction operands with
  | nil => rfl
  | cons operand rest ih =>
    simp only [List.cons_append, anyOperatorIn]
    rw [ih, Bool.or_assoc]

end Term

namespace Factory

variable {N : Type} (factory : Factory N)

theorem build_node_eq_ok {op : Operator} {operands : List (Operand Term)} {node : N} :
    factory.build (.node op operands) = .ok node
      ↔ ∃ built, factory.buildOperands operands = .ok built ∧ factory.make op built = .ok node := by
  simp only [build, bind_eq_ok]

theorem buildOperand_term_eq_ok {t : Term} {v : Operand N} :
    factory.buildOperand (.term t) = .ok v
      ↔ ∃ node, factory.build t = .ok node ∧ .term node = v := by
  simp only [buildOperand, bind_eq_ok, pure, Except.pure, Except.ok.injEq]

theorem buildOperands_cons_eq_ok {operand : Operand Term} {rest : List (Operand Term)}
    {built : List (Operand N)} :
    factory.buildOperands (operand :: rest) = .ok built
      ↔ ∃ v, factory.buildOperand operand = .ok v
          ∧ ∃ vs, factory.buildOperands rest = .ok vs ∧ v :: vs = built := by
  simp only [buildOperands, bind_eq_ok, pure, Except.pure, Except.ok.injEq]

theorem buildOperands_append {operands more : List (Operand Term)}
    {built built' : List (Operand N)} (first : factory.buildOperands operands = .ok built)
    (second : factory.buildOperands more = .ok built') :
    factory.buildOperands (operands ++ more) = .ok (built ++ built') := by
  induction operands generalizing built with
  | nil =>
    cases first
    exact second
  | cons operand rest ih =>
    obtain ⟨v, one, vs, others, rfl⟩ := factory.buildOperands_cons_eq_ok.mp first
    exact factory.buildOperands_cons_eq_ok.mpr ⟨v, one, vs ++ built', ih others, rfl⟩

end Factory

/-- The tokens of an open group: those of its term without the closing parenthesis. -/
def groupTokens (op : Operator) (operands : List (Operand Term)) : List Token :=
  .opening :: .symbol op.name :: Term.operandsTokens operands

/-- The open groups of a reader are the beginnings of some terms, and `read` are the tokens of
these beginnings.

The operands read so far are what the factory builds, none of them is nested too deeply for the
group it is in, and all operators are as their names are looked up. -/
inductive Unfinished {N : Type} (factory : Factory N) (limit : Nat) :
    List (OpenGroup N) → List Token → Prop where
  | none : Unfinished factory limit [] []
  | group {outer : List (OpenGroup N)} {read : List Token} {op : Operator}
      {operands : List (Operand Term)} {built : List (Operand N)}
      (outside : Unfinished factory limit outer read)
      (builds : factory.buildOperands operands = .ok built.reverse)
      (shallow : Term.operandsDepth operands + outer.length < limit)
      (named : (Term.node op operands).anyOperator Operator.isMisnamed = false) :
      Unfinished factory limit (⟨op, built⟩ :: outer) (read ++ groupTokens op operands)

/-- An operand that a reader may have read, with what a factory makes of it. -/
structure Reads {N : Type} (factory : Factory N) (limit : Nat) (operand : Operand Term)
    (result : Operand N) : Prop where
  builds : factory.buildOperand operand = .ok result
  shallow : Term.operandDepth operand ≤ limit
  named : Term.anyOperatorOf Operator.isMisnamed operand = false

namespace Unfinished

variable {N : Type} {factory : Factory N} {limit : Nat}

/-- A group begins with its operator. -/
theorem enter {groups : List (OpenGroup N)} {read : List Token}
    (unfinished : Unfinished factory limit groups read) (room : groups.length < limit)
    (name : String) :
    Unfinished factory limit (⟨.ofName name, []⟩ :: groups)
      (read ++ [.opening, .symbol name]) := by
  have named : (Term.node (.ofName name) []).anyOperator Operator.isMisnamed = false := by
    simp only [Term.anyOperator, Term.anyOperatorIn, Operator.isMisnamed_ofName, Bool.or_false]
  have entered : Unfinished factory limit (⟨.ofName name, []⟩ :: groups)
      (read ++ groupTokens (.ofName name) []) :=
    group unfinished rfl (by simpa only [Term.operandsDepth, Nat.zero_add] using room) named
  simpa only [groupTokens, Term.operandsTokens, Operator.name_ofName] using entered

/-- A complete operand joins the innermost group. -/
theorem push {op : Operator} {built : List (Operand N)} {outer : List (OpenGroup N)}
    {read : List Token} (unfinished : Unfinished factory limit (⟨op, built⟩ :: outer) read)
    {operand : Operand Term} {v : Operand N} (builds : factory.buildOperand operand = .ok v)
    (shallow : Term.operandDepth operand + outer.length < limit)
    (named : Term.anyOperatorOf Operator.isMisnamed operand = false) :
    Unfinished factory limit (⟨op, v :: built⟩ :: outer)
      (read ++ Term.operandTokens operand) := by
  cases unfinished with
  | @group _ before _ operands _ outside builds' shallow' named' =>
    have last : factory.buildOperands [operand] = .ok [v] :=
      factory.buildOperands_cons_eq_ok.mpr ⟨v, builds, [], rfl, rfl⟩
    have all : factory.buildOperands (operands ++ [operand]) = .ok (v :: built).reverse := by
      rw [List.reverse_cons]
      exact factory.buildOperands_append builds' last
    have deep : Term.operandsDepth (operands ++ [operand]) + outer.length < limit := by
      rw [Term.operandsDepth_append]
      simp only [Term.operandsDepth]
      omega
    have names : (Term.node op (operands ++ [operand])).anyOperator Operator.isMisnamed
        = false := by
      simp only [Term.anyOperator, Bool.or_eq_false_iff] at named' ⊢
      rw [Term.anyOperatorIn_append, named'.2]
      simp only [Term.anyOperatorIn, named, named'.1, Bool.or_false, and_self]
    have pushed := group outside all deep names
    simpa only [groupTokens, Term.operandsTokens_append, Term.operandsTokens, List.append_nil,
      List.append_assoc, List.cons_append] using pushed

/-- A closing parenthesis makes an operand of the innermost group. -/
theorem leave {op : Operator} {built : List (Operand N)} {outer : List (OpenGroup N)}
    {read : List Token} (unfinished : Unfinished factory limit (⟨op, built⟩ :: outer) read)
    {node : N} (made : factory.make op built.reverse = .ok node) :
    ∃ (t : Term) (before : List Token),
      Unfinished factory limit outer before
        ∧ read ++ [.closing] = before ++ Term.operandTokens (.term t)
        ∧ factory.buildOperand (.term t) = .ok (.term node)
        ∧ Term.operandDepth (.term t) + outer.length ≤ limit
        ∧ Term.anyOperatorOf Operator.isMisnamed (.term t) = false := by
  cases unfinished with
  | @group _ before _ operands _ outside builds shallow named =>
    refine ⟨.node op operands, before, outside, ?_, ?_, ?_, named⟩
    · simp only [groupTokens, Term.operandTokens, Term.tokens, List.append_assoc,
        List.cons_append]
    · have complete := factory.build_node_eq_ok.mpr ⟨built.reverse, builds, made⟩
      exact factory.buildOperand_term_eq_ok.mpr ⟨node, complete, rfl⟩
    · simp only [Term.operandDepth, Term.depth]
      omega

end Unfinished

namespace Factory

variable {N : Type}

/-- A token that stands for an operand by itself is the only token of that operand. -/
theorem atom?_sound (factory : Factory N) {token : Token} {v : Operand N}
    (atom : atom? token = some v) :
    ∃ operand : Operand Term, factory.buildOperand operand = .ok v
      ∧ Term.operandTokens operand = [token] ∧ Term.operandDepth operand = 0
      ∧ Term.anyOperatorOf Operator.isMisnamed operand = false := by
  cases token with
  | opening => cases atom
  | closing => cases atom
  | symbol name =>
    cases atom
    exact ⟨.symbol name, rfl, rfl, rfl, rfl⟩
  | int n =>
    cases atom
    exact ⟨.literal (.int n), rfl, rfl, rfl, rfl⟩
  | float x =>
    cases atom
    exact ⟨.literal (.float x), rfl, rfl, rfl, rfl⟩
  | str s =>
    cases atom
    exact ⟨.literal (.str s), rfl, rfl, rfl, rfl⟩
  | time t =>
    cases atom
    exact ⟨.literal (.time t), rfl, rfl, rfl, rfl⟩

/-- What the reader has consumed when it succeeds, the beginnings of open groups included, is
the tokens of one operand. -/
theorem operandOf_sound (factory : Factory N) (limit position : Nat)
    (groups : List (OpenGroup N)) (tokens : List Token) :
    ∀ {read : List Token} {v : Operand N} {after : Nat} {rest : List Token},
      Unfinished factory limit groups read →
      factory.operandOf limit position groups tokens = .ok (v, after, rest) →
      ∃ operand : Operand Term, Reads factory limit operand v
        ∧ read ++ tokens = Term.operandTokens operand ++ rest := by
  fun_induction factory.operandOf limit position groups tokens with
  | case5 position groups room name rest ih =>
    intro read v after left unfinished result
    obtain ⟨operand, reads, same⟩ := ih (unfinished.enter (Nat.lt_of_not_le room) name) result
    refine ⟨operand, reads, ?_⟩
    rw [← same, List.append_assoc]
    rfl
  | case9 position group rest node made =>
    intro read v after left unfinished result
    obtain ⟨t, before, outside, same, builds, shallow, named⟩ := unfinished.leave made
    cases outside
    cases result
    refine ⟨.term t, ⟨builds, shallow, named⟩, ?_⟩
    rw [List.append_cons, same, List.nil_append]
  | case10 position group rest node outer groups made ih =>
    intro read v after left unfinished result
    obtain ⟨t, before, outside, same, builds, shallow, named⟩ := unfinished.leave made
    have pushed := outside.push builds shallow named
    obtain ⟨operand, reads, same'⟩ := ih pushed result
    refine ⟨operand, reads, ?_⟩
    rw [← same', List.append_cons, same]
  | case12 position token rest _ operand atom =>
    intro read v after left unfinished result
    obtain ⟨form, builds, alone, flat, named⟩ := factory.atom?_sound atom
    cases unfinished
    cases result
    refine ⟨form, ⟨builds, by omega, named⟩, ?_⟩
    rw [alone]
    rfl
  | case13 position token rest _ operand group groups atom _ _ ih =>
    intro read v after left unfinished result
    obtain ⟨form, builds, alone, flat, named⟩ := factory.atom?_sound atom
    have room : groups.length < limit := by
      cases unfinished
      omega
    have pushed := unfinished.push builds (by omega) named
    obtain ⟨operand', reads, same⟩ := ih pushed result
    refine ⟨operand', reads, ?_⟩
    rw [← same, alone, List.append_assoc]
    rfl
  | _ =>
    intro read v after left unfinished result
    cases result

/-- Hand an operand to the innermost open group and read on; without one it is the result. -/
def deliver (factory : Factory N) (limit position : Nat) (v : Operand N) :
    List (OpenGroup N) → List Token → Except ParseFault (Operand N × Nat × List Token)
  | [], rest => .ok (v, position, rest)
  | ⟨op, operands⟩ :: outer, rest =>
    factory.operandOf limit position (⟨op, v :: operands⟩ :: outer) rest

theorem operandOf_atom (factory : Factory N) (limit position : Nat) (groups : List (OpenGroup N))
    {token : Token} {v : Operand N} (atom : atom? token = some v) (rest : List Token) :
    factory.operandOf limit position groups (token :: rest)
      = factory.deliver limit (position + 1) v groups rest := by
  cases token with
  | opening => cases atom
  | closing => cases atom
  | _ =>
    cases groups with
    | nil => simp only [operandOf, atom, deliver]
    | cons group outer => simp only [operandOf, atom, deliver]

theorem operandOf_enter (factory : Factory N) {limit : Nat} (position : Nat)
    {groups : List (OpenGroup N)} (room : groups.length < limit) (name : String)
    (rest : List Token) :
    factory.operandOf limit position groups (.opening :: .symbol name :: rest)
      = factory.operandOf limit (position + 2) (⟨.ofName name, []⟩ :: groups) rest := by
  rw [operandOf.eq_def]
  simp only [Nat.not_le.mpr room, if_false]

theorem operandOf_leave (factory : Factory N) (limit position : Nat) (op : Operator)
    (operands : List (Operand N)) {node : N} (made : factory.make op operands.reverse = .ok node)
    (outer : List (OpenGroup N)) (rest : List Token) :
    factory.operandOf limit position (⟨op, operands⟩ :: outer) (.closing :: rest)
      = factory.deliver limit (position + 1) (.term node) outer rest := by
  cases outer with
  | nil => simp only [operandOf, made, deliver]
  | cons group outer => simp only [operandOf, made, deliver]

mutual

/-- The tokens of an operand are read as that operand, in any group and before any tokens. -/
theorem operandOf_tokens (factory : Factory N) {limit : Nat} :
    ∀ {operand : Operand Term} {v : Operand N} {groups : List (OpenGroup N)},
      factory.buildOperand operand = .ok v →
      Term.operandDepth operand + groups.length ≤ limit →
      Term.anyOperatorOf Operator.isMisnamed operand = false →
      ∀ (position : Nat) (rest : List Token),
        factory.operandOf limit position groups (Term.operandTokens operand ++ rest)
          = factory.deliver limit (position + (Term.operandTokens operand).length) v groups rest
  | .literal value, v, groups, builds, shallow, named, position, rest => by
    cases builds
    have atom : atom? (N := N) (Token.ofValue value) = some (.literal value) := by
      cases value <;> rfl
    exact factory.operandOf_atom limit position groups atom rest
  | .symbol name, v, groups, builds, shallow, named, position, rest => by
    cases builds
    exact factory.operandOf_atom limit position groups rfl rest
  | .term (.node op operands), v, groups, builds, shallow, named, position, rest => by
    simp only [Term.operandDepth, Term.depth] at shallow
    simp only [Term.anyOperatorOf, Term.anyOperator, Bool.or_eq_false_iff] at named
    obtain ⟨node, complete, rfl⟩ := factory.buildOperand_term_eq_ok.mp builds
    obtain ⟨built, inner, made⟩ := factory.build_node_eq_ok.mp complete
    have reversed : factory.make op (built.reverse ++ []).reverse = .ok node := by
      rw [List.append_nil, List.reverse_reverse]
      exact made
    simp only [Term.operandTokens, Term.tokens, List.cons_append, List.append_assoc,
      List.nil_append]
    rw [factory.operandOf_enter position (by omega) op.name, Operator.ofName_name named.1,
      operandOf_operandsTokens factory inner (by omega) named.2 (position + 2),
      factory.operandOf_leave limit _ op _ reversed]
    simp only [List.length_cons, List.length_append, List.length_nil]
    congr 1
    omega

/-- The tokens of several operands are read into the innermost group, one after the other. -/
theorem operandOf_operandsTokens (factory : Factory N) {limit : Nat} :
    ∀ {operands : List (Operand Term)} {built : List (Operand N)} {op : Operator}
      {before : List (Operand N)} {outer : List (OpenGroup N)},
      factory.buildOperands operands = .ok built →
      Term.operandsDepth operands + outer.length < limit →
      Term.anyOperatorIn Operator.isMisnamed operands = false →
      ∀ (position : Nat) (rest : List Token),
        factory.operandOf limit position (⟨op, before⟩ :: outer)
            (Term.operandsTokens operands ++ rest)
          = factory.operandOf limit (position + (Term.operandsTokens operands).length)
              (⟨op, built.reverse ++ before⟩ :: outer) rest
  | [], built, op, before, outer, builds, shallow, named, position, rest => by
    cases builds
    rfl
  | operand :: operands, built, op, before, outer, builds, shallow, named, position, rest => by
    simp only [Term.operandsDepth] at shallow
    simp only [Term.anyOperatorIn, Bool.or_eq_false_iff] at named
    obtain ⟨v, one, vs, others, rfl⟩ := factory.buildOperands_cons_eq_ok.mp builds
    have here : Term.operandDepth operand + (⟨op, before⟩ :: outer : List _).length ≤ limit := by
      rw [List.length_cons]
      omega
    simp only [Term.operandsTokens, List.append_assoc]
    rw [operandOf_tokens factory one here named.1, deliver,
      operandOf_operandsTokens factory others (by omega) named.2]
    simp only [List.length_append, List.reverse_cons, List.append_assoc, List.cons_append,
      List.nil_append, Nat.add_assoc]

end

/-- A query is read if its tokens are read as one operand to the last, and that is a term. -/
theorem ofTokens_eq_ok (factory : Factory N) {limit : Nat} {tokens : List Token} {result : N} :
    factory.ofTokens limit tokens = .ok result
      ↔ ∃ (node : N) (position : Nat),
          factory.operandOf limit 0 [] tokens = .ok (.term node, position, [])
            ∧ result = factory.finish node := by
  constructor
  · intro read
    unfold ofTokens at read
    split at read
    · cases read
    · split at read
      · cases read
      · rename_i root position rest success
        split at read
        · cases read
        · rename_i finished
          have consumed : rest = [] := by simpa using finished
          rw [consumed] at success
          split at read
          · cases read
            exact ⟨_, position, success, rfl⟩
          · cases read
  · rintro ⟨node, position, success, rfl⟩
    cases tokens with
    | nil => cases success
    | cons token rest =>
      simp only [ofTokens, success, List.isEmpty_cons, List.isEmpty_nil, Bool.not_true,
        Bool.false_eq_true, if_false]

/-- A query is read exactly if its tokens are those of one term that is not nested too deeply and
of which the factory builds a node; that node, finished, is the result. -/
theorem ofTokens_iff (factory : Factory N) (limit : Nat) (tokens : List Token) (result : N) :
    factory.ofTokens limit tokens = .ok result ↔
      ∃ (t : Term) (node : N), tokens = t.tokens ∧ t.depth ≤ limit
        ∧ t.anyOperator Operator.isMisnamed = false
        ∧ factory.build t = .ok node ∧ result = factory.finish node := by
  rw [ofTokens_eq_ok]
  constructor
  · rintro ⟨node, position, success, finished⟩
    obtain ⟨operand, ⟨builds, shallow, named⟩, same⟩ :=
      factory.operandOf_sound limit 0 [] tokens .none success
    cases operand with
    | literal value => cases builds
    | symbol name => cases builds
    | term t =>
      obtain ⟨node', built, one⟩ := factory.buildOperand_term_eq_ok.mp builds
      cases one
      rw [List.append_nil] at same
      exact ⟨t, node, same, shallow, named, built, finished⟩
  · rintro ⟨t, node, rfl, shallow, named, built, finished⟩
    have builds : factory.buildOperand (.term t) = .ok (.term node) :=
      factory.buildOperand_term_eq_ok.mpr ⟨node, built, rfl⟩
    have room : Term.operandDepth (.term t) + ([] : List (OpenGroup N)).length ≤ limit := shallow
    have whole := factory.operandOf_tokens builds room named 0 []
    rw [List.append_nil] at whole
    exact ⟨node, _, whole, finished⟩

mutual

/-- The builder of terms builds every term as it is. -/
theorem verbatim_build : ∀ t : Term, verbatim.build t = .ok t
  | .node _ operands =>
    verbatim.build_node_eq_ok.mpr ⟨operands, verbatim_buildOperands operands, rfl⟩

theorem verbatim_buildOperand :
    ∀ operand : Operand Term, verbatim.buildOperand operand = .ok operand
  | .literal _ => rfl
  | .symbol _ => rfl
  | .term t => verbatim.buildOperand_term_eq_ok.mpr ⟨t, verbatim_build t, rfl⟩

theorem verbatim_buildOperands :
    ∀ operands : List (Operand Term), verbatim.buildOperands operands = .ok operands
  | [] => rfl
  | operand :: rest =>
    verbatim.buildOperands_cons_eq_ok.mpr
      ⟨operand, verbatim_buildOperand operand, rest, verbatim_buildOperands rest, rfl⟩

end

/-- The builder of terms reads the tokens of a term as that term. -/
theorem verbatim_ofTokens_iff (limit : Nat) (tokens : List Token) (t : Term) :
    verbatim.ofTokens limit tokens = .ok t ↔
      tokens = t.tokens ∧ t.depth ≤ limit ∧ t.anyOperator Operator.isMisnamed = false := by
  rw [ofTokens_iff]
  constructor
  · rintro ⟨form, node, same, shallow, named, built, finished⟩
    rw [verbatim_build form] at built
    cases built
    cases finished
    exact ⟨same, shallow, named⟩
  · rintro ⟨same, shallow, named⟩
    exact ⟨t, t, same, shallow, named, verbatim_build t, rfl⟩

/-- The reader does not finish terms: two factories that make the same read the same. -/
theorem operandOf_congr {factory other : Factory N} (same : factory.make = other.make)
    (limit position : Nat) (groups : List (OpenGroup N)) (tokens : List Token) :
    factory.operandOf limit position groups tokens
      = other.operandOf limit position groups tokens := by
  fun_induction factory.operandOf limit position groups tokens with
  | case5 position groups room name rest ih =>
    rw [ih, other.operandOf_enter position (Nat.lt_of_not_le room)]
  | case8 position group groups rest e made =>
    rw [same] at made
    simp only [operandOf, made]
  | case9 position group rest node made =>
    rw [same] at made
    simp only [operandOf, made]
  | case10 position group rest node outer groups made ih =>
    rw [same] at made
    rw [ih]
    simp only [operandOf, made]
  | case12 position token rest _ operand atom =>
    rw [other.operandOf_atom limit position [] atom rest, deliver]
  | case13 position token rest _ operand group groups atom _ _ ih =>
    rw [ih, other.operandOf_atom limit position (group :: groups) atom rest, deliver]
  | case1 => rfl
  | case7 => rfl
  | case2 position groups rest deep =>
    rw [operandOf.eq_def]
    simp only [deep, if_true]
  | case3 position groups room =>
    rw [operandOf.eq_def]
    simp only [room, if_false]
  | case4 position groups room tail =>
    rw [operandOf.eq_def]
    simp only [room, if_false]
  | case6 position groups room found tail _ _ =>
    rw [operandOf.eq_def]
    simp only [room, if_false]
  | case11 position groups token rest _ _ _ nothing =>
    rw [operandOf.eq_def]
    simp only [nothing]

/-- The builder that simplifies reads what the builder of terms reads, and simplifies it. -/
theorem simplifying_ofTokens (limit : Nat) (tokens : List Token) :
    simplifying.ofTokens limit tokens = (verbatim.ofTokens limit tokens).map Term.simplify := by
  have same : simplifying.make = verbatim.make := rfl
  unfold ofTokens
  rw [operandOf_congr same]
  split
  · rfl
  · cases verbatim.operandOf limit 0 [] tokens with
    | error fault => rfl
    | ok found =>
      obtain ⟨root, position, rest⟩ := found
      simp only
      split
      · rfl
      · cases root <;> rfl

end Factory

end Annals
