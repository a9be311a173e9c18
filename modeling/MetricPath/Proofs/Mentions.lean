import MetricPath.Proofs.Fields
import MetricPath.Route

/-!
# Keys that a template does not mention

A template mentions a key if an operand in it is the whole dot or the whole context, or is a chain
of fields that begins with the key (`Template.mentions`).  A template that does not mention a key
renders the same whatever the context has under it (`execute_eq_of_not_mentions`).

Two runs on contexts that differ under the key keep their dots `Alike`: no chain of fields that
begins otherwise tells them apart.  At first the dots are the contexts themselves.  The pipeline of
a block has one value in both runs, so the dots that a block sets are even equal, and the functions
that look into whole values never get to see the contexts.
-/

namespace MetricPath

namespace Template

variable {key : String}

/-! ## Mentioning a key -/

/-- Whether a chain of fields reads the key first.  Without fields it is the whole value, which
holds the key as well. -/
def chainMentions (key : String) (chain : List String) : Bool :=
  chain.head?.all fun name => name = key

mutual

/-- Whether an operand mentions the key. -/
def operandMentions (key : String) : Operand → Bool
  | .dot => true
  | .field chain => chainMentions key chain
  | .root chain => chainMentions key chain
  | .literal _ => false
  | .call _ => false
  | .sub commands _ => commandsMention key commands

/-- Whether one of some operands mentions the key. -/
def operandsMention (key : String) : List Operand → Bool
  | [] => false
  | o :: os => operandMentions key o || operandsMention key os

/-- Whether a command mentions the key. -/
def commandMentions (key : String) : Command → Bool
  | .call _ args => operandsMention key args
  | .operand o => operandMentions key o

/-- Whether one of some commands mentions the key. -/
def commandsMention (key : String) : List Command → Bool
  | [] => false
  | c :: cs => commandMentions key c || commandsMention key cs

end

mutual

/-- Whether a node mentions the key. -/
def nodeMentions (key : String) : Node → Bool
  | .text _ => false
  | .action pipe => commandsMention key pipe
  | .block _ pipe body otherwise =>
    commandsMention key pipe || nodesMention key body || nodesMention key otherwise

/-- Whether one of some nodes mentions the key. -/
def nodesMention (key : String) : List Node → Bool
  | [] => false
  | n :: ns => nodeMentions key n || nodesMention key ns

end

/-- Whether a template mentions a key. -/
def mentions (t : Template) (key : String) : Bool := nodesMention key t.nodes

/-! ## Data that differ under a key -/

/-- No chain of fields that does not mention the key tells the data apart. -/
def Alike (key : String) (d e : Datum) : Prop :=
  ∀ chain, chainMentions key chain = false → follow d chain = follow e chain

theorem Alike.refl (d : Datum) : Alike key d d := fun _ _ => rfl

/-- Objects that agree on the other keys are alike, because a chain begins with one of these. -/
theorem alike_object {fields fields' : List (String × Value)}
    (agree : ∀ name, name ≠ key → Fields.get? name fields = Fields.get? name fields') :
    Alike key (some (.object fields)) (some (.object fields')) := by
  intro chain other
  cases chain with
  | nil => cases other
  | cons name chain =>
    have ne : name ≠ key := by simpa [chainMentions] using other
    show (do follow (← pure (Fields.get? name fields)) chain) = _
    rw [agree name ne]
    rfl

/-! ## Two runs -/

section TwoRuns

variable {root root' : Value} {dot dot' : Datum}

mutual

/-- An operand that does not mention the key has the same value in both runs. -/
theorem evalOperand_alike (roots : Alike key (some root) (some root')) (dots : Alike key dot dot') :
    (o : Operand) → operandMentions key o = false →
      evalOperand root dot o = evalOperand root' dot' o
  | .dot, h => by cases h
  | .field chain, h => by
    rw [evalOperand, evalOperand]
    exact dots chain h
  | .root chain, h => by
    rw [evalOperand, evalOperand]
    exact roots chain h
  | .literal v, _ => by rw [evalOperand, evalOperand]
  | .call f, _ => by rw [evalOperand, evalOperand]
  | .sub commands chain, h => by
    rw [evalOperand, evalOperand, evalPipeline_alike roots dots none commands h]

theorem evalOperands_alike (roots : Alike key (some root) (some root'))
    (dots : Alike key dot dot') :
    (os : List Operand) → operandsMention key os = false →
      evalOperands root dot os = evalOperands root' dot' os
  | [], _ => by rw [evalOperands, evalOperands]
  | o :: os, h => by
    obtain ⟨first, others⟩ := Bool.or_eq_false_iff.mp h
    rw [evalOperands, evalOperands, evalOperand_alike roots dots o first,
      evalOperands_alike roots dots os others]

theorem evalCommand_alike (roots : Alike key (some root) (some root')) (dots : Alike key dot dot')
    (piped : Option Datum) :
    (c : Command) → commandMentions key c = false →
      evalCommand root dot piped c = evalCommand root' dot' piped c
  | .call f args, h => by
    rw [evalCommand, evalCommand, evalOperands_alike roots dots args h]
  | .operand o, h => by rw [evalCommand, evalCommand, evalOperand_alike roots dots o h]

theorem evalPipeline_alike (roots : Alike key (some root) (some root'))
    (dots : Alike key dot dot') (piped : Option Datum) :
    (cs : List Command) → commandsMention key cs = false →
      evalPipeline root dot piped cs = evalPipeline root' dot' piped cs
  | [], _ => by rw [evalPipeline, evalPipeline]
  | c :: cs, h => by
    obtain ⟨first, others⟩ := Bool.or_eq_false_iff.mp h
    rw [evalPipeline, evalPipeline, evalCommand_alike roots dots piped c first]
    congr 1
    funext d
    exact evalPipeline_alike roots dots (some d) cs others

end

mutual

/-- A node that does not mention the key has the same text in both runs.  Within a block that sets
the dot both runs have the same one, because the value of its pipeline is the same. -/
theorem renderNode_alike (roots : Alike key (some root) (some root')) {dot dot' : Datum}
    (dots : Alike key dot dot') :
    (n : Node) → nodeMentions key n = false → renderNode root dot n = renderNode root' dot' n
  | .text s, _ => by rw [renderNode, renderNode]
  | .action pipe, h => by
    rw [renderNode, renderNode, evalPipeline_alike roots dots none pipe h]
  | .block kind pipe body otherwise, h => by
    obtain ⟨h, unnamed⟩ := Bool.or_eq_false_iff.mp h
    obtain ⟨inPipe, inBody⟩ := Bool.or_eq_false_iff.mp h
    have set (d : Datum) : renderNodes root d body = renderNodes root' d body :=
      renderNodes_alike roots (Alike.refl d) body inBody
    have kept := renderNodes_alike roots dots body inBody
    have other := renderNodes_alike roots dots otherwise unnamed
    rw [renderNode, renderNode, evalPipeline_alike roots dots none pipe inPipe]
    congr 1
    funext d
    cases kind with
    | ifBlock =>
      show (if isTruthy d then _ else _) = _
      rw [kept, other]
    | withBlock =>
      show (if isTruthy d then _ else _) = _
      rw [set, other]
    | rangeBlock =>
      -- every item becomes the dot, one after the other
      simp only [set, other]

theorem renderNodes_alike (roots : Alike key (some root) (some root')) {dot dot' : Datum}
    (dots : Alike key dot dot') :
    (ns : List Node) → nodesMention key ns = false →
      renderNodes root dot ns = renderNodes root' dot' ns
  | [], _ => by rw [renderNodes, renderNodes]
  | n :: ns, h => by
    obtain ⟨first, others⟩ := Bool.or_eq_false_iff.mp h
    rw [renderNodes, renderNodes, renderNode_alike roots dots n first,
      renderNodes_alike roots dots ns others]

end

end TwoRuns

/-! ## Templates and rules -/

/-- A template that does not mention a key does the same on all objects that agree on the other
keys. -/
theorem execute_alike {t : Template} (h : t.mentions key = false)
    {fields fields' : List (String × Value)}
    (agree : ∀ name, name ≠ key → Fields.get? name fields = Fields.get? name fields') :
    t.execute (.object fields) = t.execute (.object fields') :=
  renderNodes_alike (alike_object agree) (alike_object agree) t.nodes h

/-- The labels are laid over the template data, so contexts agree where the data do. -/
theorem get?_context {data data' : TemplateData} (m : LabelSet)
    (agree : ∀ name, name ≠ key → Fields.get? name data = Fields.get? name data') (name : String)
    (ne : name ≠ key) :
    let labels : Value := .object (m.pairs.map fun p => (p.1, .string p.2))
    Fields.get? name (Fields.insert labelsField labels data) =
      Fields.get? name (Fields.insert labelsField labels data') := by
  intro labels
  rw [Fields.get?_insert, Fields.get?_insert, agree name ne]

/-- A template that does not mention a key depends on nothing that stands under it.  On contexts
that agree on the other keys it comes to the same text or the same error, whatever patterns have
been compiled before, and learns the same patterns.  So the rule that it belongs to renders the same
path for a label set, or fails in the same way, with all template data that agree on the other
keys. -/
theorem execute_eq_of_not_mentions (t : Template) (key : String) (h : t.mentions key = false) :
    (∀ fields fields' : List (String × Value),
      (∀ name, name ≠ key → Fields.get? name fields = Fields.get? name fields') →
        t.execute (.object fields) = t.execute (.object fields')) ∧
      ∀ (m : LabelSet) (data data' : TemplateData),
        (∀ name, name ≠ key → Fields.get? name data = Fields.get? name data') →
          ∀ position, renderRule (templateContext m data) position t =
            renderRule (templateContext m data') position t := by
  constructor
  · intro fields fields' agree
    exact execute_alike h agree
  · intro m data data' agree position
    have same : t.execute (templateContext m data) = t.execute (templateContext m data') :=
      execute_alike h (get?_context m agree)
    funext activity
    rw [renderRule, renderRule, same]

/-- Within a block the dot is another value, and the context is still not seen as a whole. -/
theorem execute_eq_of_not_mentions_within_block :
    let source :=
      "\x7b\x7bwith .labels\x7d\x7d" ++ "\x7b\x7b.owner | print $.zone\x7d\x7d" ++
        "\x7b\x7bend\x7d\x7d"
    let t : Template := ⟨source,
      [.block .withBlock [.operand (.field ["labels"])]
        [.action [.operand (.field ["owner"]), .call .print [.root ["zone"]]]] []]⟩
    let labels : Value := .object [("owner", .string "team"), ("site", .string "s")]
    t.mentions "site" = false ∧
      t.execute (.object [("labels", labels), ("site", .null), ("zone", .string "eu-")]) =
        t.execute (.object [("labels", labels), ("zone", .string "eu-")]) := by
  intro source t labels
  have unmentioned : t.mentions "site" = false := by decide
  refine ⟨unmentioned, (execute_eq_of_not_mentions t "site" unmentioned).1 _ _ ?_⟩
  intro name ne
  simp [Fields.get?, ne.symm]

end Template

end MetricPath
