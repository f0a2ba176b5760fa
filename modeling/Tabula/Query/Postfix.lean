import Tabula.Query.Lexeme

/-!
# Postfix order

Tokens are reordered so that every operator follows its operands. Operators wait
on a stack until one that binds no tighter arrives; a closing bracket releases
the operators back to its opening bracket and drops both. Tokens that are no
operators pass at once and never change their order.
-/

namespace Tabula.Query

/-- The tokens passed on so far, and the operators that wait, the latest first. -/
structure Postfix where
  output : List Token
  stack : List Token
  deriving DecidableEq, Repr

namespace Postfix

/-- Before the first token. -/
def empty : Postfix := ⟨[], []⟩

/-- Whether a waiting operator is released by a token. -/
def releases (token waiting : Token) : Bool :=
  waiting ≠ .openBracket && token.priority ≤ waiting.priority

/-- Takes a closing bracket; there must be an opening one. -/
def close (order : Postfix) : Option Postfix :=
  match order.stack.dropWhile (· ≠ .openBracket) with
  | [] => none
  | _ :: below => some ⟨order.output ++ order.stack.takeWhile (· ≠ .openBracket), below⟩

/-- Takes the next token. Only a closing bracket without an opening one is
refused. -/
def push (order : Postfix) (token : Token) : Option Postfix :=
  if !token.isOperator then some { order with output := order.output ++ [token] }
  else
    let released : Postfix :=
      ⟨order.output ++ order.stack.takeWhile (releases token),
        order.stack.dropWhile (releases token)⟩
    if token = .closeBracket then released.close
    else some { released with stack := token :: released.stack }

/-- All tokens in postfix order. Opening brackets that were never closed are passed
on among the operators. -/
def finish (order : Postfix) : List Token :=
  order.output ++ order.stack

/-- Takes tokens up to the first that is refused, whose position is the error. -/
def pushAll (order : Postfix) : List Placed → Except Nat Postfix
  | [] => .ok order
  | placed :: rest =>
      match order.push placed.token with
      | some next => next.pushAll rest
      | none => .error placed.position

end Postfix

/-- Why a text has no tokens. -/
inductive LexFault where
  | unclosedText
  | unclosedIdentifier
  | unmatchedBracket
  | unterminated
  deriving DecidableEq, Repr

/-- A fault and the byte where it is noticed. -/
structure LexError where
  fault : LexFault
  position : Nat
  deriving DecidableEq, Repr

namespace LexError

/-- The error in words. -/
def message (error : LexError) : String :=
  let fault := match error.fault with
    | .unclosedText => "string literal is not closed"
    | .unclosedIdentifier => "quoted identifier is not closed"
    | .unmatchedBracket => "closing bracket has no opening bracket"
    | .unterminated => "statement is not terminated by ';'"
  s!"{fault} at position {error.position}"

end LexError

/-- The error of a reading that does not end at a semicolon. -/
def Ending.error? : Ending → Option LexError
  | .terminated => none
  | .unclosed .text position => some ⟨.unclosedText, position⟩
  | .unclosed .identifier position => some ⟨.unclosedIdentifier, position⟩
  | .unterminated length => some ⟨.unterminated, length⟩

/-- The tokens of a query in postfix order. -/
def tokenize (query : String) : Except LexError (List Token) :=
  let lexemes := Lexemes.scan query.toList
  match Postfix.empty.pushAll lexemes.tokens with
  | .error position => .error ⟨.unmatchedBracket, position⟩
  | .ok order =>
      match lexemes.ending.error? with
      | some error => .error error
      | none => .ok order.finish

end Tabula.Query
