import SqlDialect.Token.Scan

/-!
# Reading tokens one at a time

A cursor stands in a text and reads its tokens on demand. It holds only the
characters that it has not read, so a step never looks back. The steps are the
ones that a consumer of a sequence asks for: the next token, the one after some
that are passed over, a run of bounded length, everything left, or how many are
left. Beyond the last token every step answers as on an empty text.
-/

namespace SqlDialect

/-- A place in a text, given by the characters that are still to be read. -/
structure TokenCursor where
  unread : List Char

/-- A request to a cursor. -/
inductive CursorStep
  | next
  | nth (skipped : Nat)
  | take (limit : Nat)
  | rest
  | count
  deriving DecidableEq

/-- What a cursor answers to a request. -/
inductive CursorAnswer
  | token (found : Option Token)
  | tokens (found : List Token)
  | number (count : Nat)
  deriving DecidableEq

namespace TokenCursor

/-- A cursor at the front of a text. -/
def atFront (text : String) : TokenCursor :=
  ⟨text.toList⟩

/-- Read one token, or use up the blanks at the end. -/
def next (cursor : TokenCursor) : Option Token × TokenCursor :=
  match Token.scan? cursor.unread with
  | some (token, unread) => (some token, ⟨unread⟩)
  | none => (none, ⟨[]⟩)

/-- Pass over some tokens and read the one after them. -/
def nth (cursor : TokenCursor) : Nat → Option Token × TokenCursor
  | 0 => cursor.next
  | skipped + 1 =>
      match cursor.next with
      | (some _, moved) => moved.nth skipped
      | (none, moved) => (none, moved)

/-- Read tokens up to a limit on their number. -/
def take (cursor : TokenCursor) : Nat → List Token × TokenCursor
  | 0 => ([], cursor)
  | limit + 1 =>
      match cursor.next with
      | (some token, moved) =>
          let taken := moved.take limit
          (token :: taken.1, taken.2)
      | (none, moved) => ([], moved)

/-- Read all tokens that are left. -/
def rest (cursor : TokenCursor) : List Token × TokenCursor :=
  (Token.scanAll cursor.unread, ⟨[]⟩)

/-- Answer one request. -/
def answer (cursor : TokenCursor) : CursorStep → CursorAnswer × TokenCursor
  | .next =>
      let (found, moved) := cursor.next
      (.token found, moved)
  | .nth skipped =>
      let (found, moved) := cursor.nth skipped
      (.token found, moved)
  | .take limit =>
      let (found, moved) := cursor.take limit
      (.tokens found, moved)
  | .rest =>
      let (found, moved) := cursor.rest
      (.tokens found, moved)
  | .count =>
      let (found, moved) := cursor.rest
      (.number found.length, moved)

/-- Answer a sequence of requests, each where the one before left off. -/
def answers (cursor : TokenCursor) : List CursorStep → List CursorAnswer
  | [] => []
  | step :: steps =>
      let (answered, moved) := cursor.answer step
      answered :: moved.answers steps

end TokenCursor

end SqlDialect
