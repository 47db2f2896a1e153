import RuleMachine.Grammar.Parse
import RuleMachine.Program

/-!
# The grammar of programs

The productions of the language and the phrase of each. Line breaks count only where they end the
fields of a tagged form. Operators bind in the usual order: power first, from the right, then
multiplication and addition, from the left.
-/

namespace RuleMachine

/-- The productions, each with the type of what it stands for. -/
inductive Production : Type → Type where
  | program : Production (List Declaration)
  | declaration : Production Declaration
  | rule : Production Declaration
  | tagPatterns : Production (List Pattern)
  | orEvent : Production Step
  | condEvent : Production Step
  | orState : Production Step
  | andState : Production Step
  | state : Production Step
  | event : Production Step
  | orCond : Production Cond
  | andCond : Production Cond
  | cond : Production Cond
  | comparison : Production Comparison
  | orEffect : Production Effect
  | condEffect : Production Effect
  | andEffect : Production Effect
  | joinedAction : Production Action
  | action : Production Action
  | tagPattern : Production Pattern
  | pattern : Production Pattern
  | patternField : Production (String × Pattern)
  | tagExpr : Production Expr
  | expr : Production Expr
  | product : Production Expr
  | power : Production Expr
  | operand : Production Expr
  | exprField : Production (String × Expr)
  | literal : Production Value
  | fieldKey : Production String

namespace Production

open Phrase

/-- A single alternative stands for itself, more are combined. -/
def combined {α : Type} (combine : List α → α) : α × List α → α
  | (head, []) => head
  | (head, tail) => combine (head :: tail)

/-- A symbol that stands for an operator. -/
def operator {α : Type} (symbol : String) (op : α) : Phrase Production α :=
  (fun _ => op) <$> .symbol symbol

/-- A word that stands for a value. -/
def constant {α : Type} (word : String) (value : α) : Phrase Production α :=
  (fun _ => value) <$> .word word

/-- A tag with the fields that follow it on its line. -/
def taggedForm {α β : Type} (field : Production α) (build : String → List α → β) :
    Phrase Production β :=
  build <$> (symbol "#" *> terminal .name) <*> lineList (production field)

/-- A key and a value with a colon between them, or a key alone. -/
def pair {α : Type} (value : Production α) (shorthand : String → String × α) :
    Phrase Production (String × α) :=
  orElse (Prod.mk <$> (production fieldKey <* symbol ":") <*> production value)
    (shorthand <$> terminal .ident)

/-- The phrase of each production. -/
def phrase : {α : Type} → Production α → Phrase Production α
  | _, program =>
    (fun d ds r rs => d :: ds ++ r :: rs) <$> production declaration <*>
      many (production declaration) <*> production rule <*>
      (many (production rule) <* finish "end of input")
  | _, declaration => oneOf [
      .states <$> (word "states" *> symbol "=" *> production tagPatterns),
      .actions <$> (word "actions" *> symbol "=" *> production tagPatterns),
      .start <$> (word "start" *> symbol "=" *> production tagExpr)]
  | _, tagPatterns => (fun (p, ps) => p :: ps) <$> separatedBy "|" (production tagPattern)
  | _, rule => oneOf [
      (fun on effect => .rule ⟨on, effect⟩) <$> (production orEvent <* symbol "->") <*>
        production orEffect,
      (fun dest source => .extension ⟨dest, source⟩) <$> (production tagExpr <* word "extends") <*>
        production tagPattern]
  | _, orEvent => combined .alternatives <$> separatedBy "|" (production condEvent)
  | _, condEvent => oneOf [
      (fun state event cond => .sequence (state :: event :: (cond.map Step.cond).toList)) <$>
        (production state <* symbol "@") <*> production event <*>
        optional (word "if" *> production cond),
      group .round (production orEvent)]
  | _, orState => combined .alternatives <$> separatedBy "|" (production andState)
  | _, andState =>
    (fun head conds => combined .sequence (head, conds.map Step.cond)) <$>
      orElse (production state) (Step.cond <$> production cond) <*>
      many (symbol "&" *> production cond)
  | _, state => oneOf [
      group .round (production orState),
      .state <$> production tagPattern]
  | _, event => orElse (.event <$> production tagPattern) <|
    refuse "after" "timed 'after' events"
      (terminal .number *> orElse (word "s") (word "ms")) <|
    refuse "enter" "'enter' events" stateOrCond <|
    refuse "exit" "'exit' events" stateOrCond <|
    fail (some "event")
  | _, orCond => combined .any <$> separatedBy "|" (production andCond)
  | _, andCond => combined .all <$> separatedBy "&" (production cond)
  | _, cond => oneOf [
      group .round (production orCond),
      .call <$> terminal .callable,
      .compare <$> production expr <*> production comparison <*> production expr,
      .truthy <$> production expr]
  | _, comparison => oneOf [
      operator "==" .eq,
      operator "!=" .ne,
      operator ">=" .ge,
      operator ">" .gt,
      operator "<=" .le,
      operator "<" .lt,
      constant "in" .isIn,
      (fun _ => .notIn) <$> (word "not" *> word "in"),
      (fun negated => if negated.isSome then .isNot else .is) <$>
        (word "is" *> optional (word "not"))]
  | _, orEffect => combined .alternatives <$> separatedBy "|" (production condEffect)
  | _, condEffect =>
    (fun effect cond => cond.elim effect (Effect.guarded effect)) <$> production andEffect <*>
      optional (word "if" *> production cond)
  | _, andEffect => oneOf [
      .next <$> production tagExpr <*> many (production joinedAction),
      (fun a actions => .only (a :: actions)) <$> production action <*>
        many (production joinedAction)]
  | _, joinedAction => symbol "&" *> production action
  | _, action => orElse (.nested <$> group .round (production orEffect)) <|
    choose (word "dispatch") ((fun e _ => .dispatch e) <$> production tagExpr) <|
    choose (word "await") ((fun f _ => .await f) <$> terminal .callable) <|
    choose (word "exec") ((fun f _ => .exec f) <$> terminal .callable) <|
    fail (some "effect")
  | _, tagPattern => orElse (taggedForm patternField .tagged) (production pattern)
  | _, pattern => oneOf [
      .object <$> group .curly (commaList (production patternField)),
      .array <$> group .square (commaList (production pattern)),
      group .round (production tagPattern),
      constant "_" .wildcard,
      .literal <$> production literal,
      .bind <$> terminal .ident]
  | _, patternField => pair pattern Pattern.shorthand
  | _, tagExpr => orElse (taggedForm exprField .tagged) (production expr)
  | _, expr => Expr.chain <$> production product <*>
      many (Prod.mk <$> oneOf [operator "+" .add, operator "-" .sub, fail none] <*>
        production product)
  | _, product => Expr.chain <$> production power <*>
      many (Prod.mk <$>
        oneOf [operator "*" .mul, operator "/" .div, operator "%" .rem, fail none] <*>
        production power)
  | _, power => (fun base exponent => exponent.elim base (Expr.binary .pow base)) <$>
      production operand <*> optional (symbol "**" *> production power)
  | _, operand => oneOf [
      group .round (production tagExpr),
      .list <$> group .square (commaList (production expr)),
      .record <$> group .curly (commaList (production exprField)),
      .const <$> production literal,
      .get <$> terminal .ident,
      .call <$> terminal .callable,
      fail (some "expression")]
  | _, exprField => pair expr Expr.shorthand
  | _, literal => oneOf [
      constant "true" (.bool true),
      constant "false" (.bool false),
      constant "null" .null,
      constant "undefined" .undefined,
      terminal .literal]
  | _, fieldKey => orElse (terminal .ident) (terminal .quoted)
where
  stateOrCond : Phrase Production Unit :=
    orElse ((fun _ => ()) <$> production state) ((fun _ => ()) <$> production cond)

/-- Reads a production, with fuel for `fuel` productions nested in each other. -/
def parse {ρ : Type} [Notepad ρ] : Nat → {α : Type} → Production α → Parse ρ α
  | 0, _, _ => fun _ _ => .exhausted
  | fuel + 1, _, n => n.phrase.parse fun n => parse fuel n

end Production

mutual

/-- The size of a node: one for each token and group, and one for each character. -/
def Node.size : Node Value → Nat
  | .token t => t.text.length + 1
  | .group opener closer children =>
    opener.text.length + closer.text.length + 2 + Node.sizes children

def Node.sizes : List (Node Value) → Nat
  | [] => 0
  | n :: ns => Node.size n + Node.sizes ns

end

/-- Enough fuel for the productions that can be nested in each other over a tree. -/
def Tree.fuel (t : Tree Value) : Nat := 32 * (Node.sizes t.nodes + 2)

/-- The declarations of a program. -/
def Tree.program (t : Tree Value) : Except ParseError (List Declaration) :=
  match Production.program.parse t.fuel { nodes := t.nodes, stop := t.stop } ({} : Furthest) with
  | .ok ds _ _ => .ok ds
  | .mismatch f => .error f.error
  | .fatal e => .error e
  | .exhausted => .error (Furthest.error {})

end RuleMachine
