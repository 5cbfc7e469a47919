import MonkeyLang.Parser.SyntaxError

/-
  This file defines the state of parsing and the steps that
  routines are built from. A routine that fails reports why;
  the errors reported and the tokens passed over stay so, and
  whoever called it may go on with the next token.

  Key definitions include:
    * `ParserState`        (the tokens ahead and the errors)
    * `Parse`              (a routine)
    * `Parse.attempt`      (go on after a failure)
    * `Parse.expect`       (require a kind of token)
-/

------------------------------------------------------------
-- States
------------------------------------------------------------

namespace MonkeyLang

/-
  How many tokens have been passed over; the tokens that are
  left, the first of which is under examination; the token that
  stands for everything after the last, which is an end of
  input; and the errors so far, the first one first.
-/
structure ParserState where
  position : Nat
  ahead : List Token
  ending : Token
  ending_kind : ending.kind = .eof
  errors : List SyntaxError

namespace ParserState

/-
  The state before the first of some tokens. Behind the last
  token the input has ended, at that token's place.
-/
def ofTokens
    (tokens : List Token) :
    ParserState where
  position := 0
  ahead := tokens
  ending :=
    match tokens.getLast? with
    | some token => Token.endAt token.line token.column
    | none => Token.endAt 0 0
  ending_kind := by cases tokens.getLast? <;> rfl
  errors := []

/- The token under examination. -/
def current
    (state : ParserState) :
    Token :=
  state.ahead.headD state.ending

/- The token after the one under examination. -/
def upcoming
    (state : ParserState) :
    Token :=
  state.ahead.tail.headD state.ending

/-
  Go on to the next token. Behind the last token the input has
  ended, however often this is done.
-/
def next
    (state : ParserState) :
    ParserState :=
  { state with
    position := state.position + 1
    ahead := state.ahead.tail }

def report
    (state : ParserState)
    (error : SyntaxError) :
    ParserState :=
  { state with errors := state.errors ++ [error] }

end ParserState

------------------------------------------------------------
-- Routines
------------------------------------------------------------

/-
  A parsing routine: from a state to a result, none if it
  failed, and the state that it leaves.
-/
def Parse
    (α : Type) :
    Type :=
  ParserState → Option α × ParserState

namespace Parse

/- The routine that has a result and does nothing. -/
def result
    (value : α) :
    Parse α :=
  fun state => (some value, state)

/- The routine that fails and does nothing else. -/
def failure : Parse α :=
  fun state => (none, state)

/- One routine, and with its result another. A failure ends both. -/
def andThen
    (routine : Parse α)
    (following : α → Parse β) :
    Parse β :=
  fun state =>
    match routine state with
    | (some value, state) => following value state
    | (none, state) => (none, state)

instance : Monad Parse where
  pure := result
  bind := andThen

/- Run a routine, and go on even if it fails. -/
def attempt
    (routine : Parse α) :
    Parse (Option α) :=
  fun state =>
    match routine state with
    | (value?, state) => (some value?, state)

/- The result of a routine that was attempted. -/
def ofOption
    (value? : Option α) :
    Parse α :=
  fun state => (value?, state)

/- The token under examination. -/
def current : Parse Token :=
  fun state => (some state.current, state)

/- The token after the one under examination. -/
def upcoming : Parse Token :=
  fun state => (some state.upcoming, state)

def step : Parse Unit :=
  fun state => (some (), state.next)

/- Report an error about a token, and fail. -/
def fail
    (token : Token)
    (cause : SyntaxError.Cause) :
    Parse α :=
  fun state => (none, state.report (SyntaxError.about token cause))

def upcomingIs
    (kind : TokenKind) :
    Parse Bool :=
  fun state => (some (state.upcoming.kind = kind), state)

/-
  Go on to the next token if it has the wanted kind; otherwise
  report it and stay.
-/
def expect
    (wanted : TokenKind) :
    Parse Unit := do
  let token ← upcoming
  if token.kind = wanted then
    step
  else
    fail token (.unexpected wanted token.kind)

def skipSemicolon : Parse Unit := do
  if ← upcomingIs .semicolon then
    step
  else
    result ()

/-
  Run a routine and pass over the semicolon behind it, whether
  it failed or not.
-/
def terminated
    (routine : Parse α) :
    Parse α := do
  let value? ← attempt routine
  skipSemicolon
  ofOption value?

end Parse

end MonkeyLang
