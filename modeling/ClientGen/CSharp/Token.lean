import ClientGen.CSharp.Lexeme

/-!
# Tokens

A token is a lexeme that is neither white space nor a comment nor a directive, together with
what stands before it. Everything from `#if` to its `#endif` stays together and holds no tokens:
neither branch is looked into. Only whether it holds attributes counts, since those belong to the
declaration that follows.
-/

namespace ClientGen.CSharp

/-- What may stand before a token. -/
inductive Trivia where
  /-- White space. -/
  | blank (text : Source)
  /-- A comment. -/
  | comment (text : Source)
  /-- A directive. -/
  | directive (text : Source)
  /-- Everything from `#if` to its `#endif`. -/
  | conditional (lexemes : List Lexeme)
deriving Repr, DecidableEq

namespace Trivia

/-- The text of what stands before a token. -/
def text : Trivia → Source
  | .blank text => text
  | .comment text => text
  | .directive text => text
  | .conditional lexemes => lexemes.flatMap (·.text)

/-- The text of a comment. -/
def comment? : Trivia → Option Source
  | .comment text => some text
  | _ => none

/-- Is it a directive? -/
def isDirective : Trivia → Bool
  | .directive _ | .conditional _ => true
  | _ => false

/-- Do all of some lexemes stand within square brackets, when `depth` of these are open? -/
def areBracketed (depth : Nat) : List Lexeme → Bool
  | [] => true
  | lexeme :: rest =>
    if lexeme.text = [some '['] then areBracketed (depth + 1) rest
    else if 0 < depth then
      areBracketed (if lexeme.text = [some ']'] then depth - 1 else depth) rest
    else false

/-- Does it hold attributes, and no declarations? -/
def holdsAttributes : Trivia → Bool
  | .conditional lexemes =>
    let tokens := lexemes.filter (·.isToken)
    !tokens.isEmpty && areBracketed 0 tokens
  | _ => false

end Trivia

/-- A token with what stands before it. -/
structure Token where
  /-- White space, comments and directives before it. -/
  lead : List Trivia
  /-- What it is. -/
  kind : TokenKind
  /-- Its text. -/
  text : Source
deriving Repr, DecidableEq

namespace Token

/-- The name of the directive in a lexeme. -/
def directiveName (text : Source) : Source :=
  ((text.drop 1).dropWhile Lexeme.isBlank).takeWhile Lexeme.isWord

/-- How the depth of conditional sections changes at a directive. -/
def depthAfter (depth : Nat) (lexeme : Lexeme) : Nat :=
  if lexeme.kind ≠ .directive then depth
  else if directiveName lexeme.text = Source.ofText "if" then depth + 1
  else if directiveName lexeme.text = Source.ofText "endif" then depth - 1
  else depth

/-- The tokens in a list of lexemes. `depth` conditional sections are open, and `hidden` holds what
they have shown; `lead` holds what was passed since the last token. Both are in reverse. -/
def ofLexemesAfter (depth : Nat) (hidden : List Lexeme) (lead : List Trivia) :
    List Lexeme → List Token
  | [] => []
  | lexeme :: rest =>
    let after := depthAfter depth lexeme
    if 0 < after then ofLexemesAfter after (lexeme :: hidden) lead rest
    else if 0 < depth then
      ofLexemesAfter 0 [] (.conditional (lexeme :: hidden).reverse :: lead) rest
    else
      match lexeme.kind with
      | .token kind => ⟨lead.reverse, kind, lexeme.text⟩ :: ofLexemesAfter 0 [] [] rest
      | .directive => ofLexemesAfter 0 [] (.directive lexeme.text :: lead) rest
      | .comment => ofLexemesAfter 0 [] (.comment lexeme.text :: lead) rest
      | .blank => ofLexemesAfter 0 [] (.blank lexeme.text :: lead) rest

/-- The tokens of a source. -/
def ofSource (s : Source) : List Token :=
  ofLexemesAfter 0 [] [] (Lexeme.ofSource s)

/-- The comments directly before a declaration with a given first token: those after the last
directive, in order. A conditional section that holds attributes is part of the declaration. -/
def comments (token : Token) : List Source :=
  let before := token.lead.takeWhile (!·.holdsAttributes)
  ((before.reverse.takeWhile (!·.isDirective)).reverse).filterMap Trivia.comment?

/-- Is a token one of the given characters of punctuation? -/
def isSymbolIn (chars : List Char) (token : Token) : Bool :=
  token.kind = .symbol ∧ chars.any fun c => token.text = [some c]

end Token

/-- A token, or the tokens between two matching brackets. -/
inductive Tree where
  /-- A token other than a bracket. -/
  | leaf (token : Token)
  /-- A bracketed group. -/
  | group (opening : Token) (items : List Tree) (closing : Token)
deriving Repr

namespace Tree

/-- The trees of a list of tokens. `enclosing` holds the opening brackets that wait for their
closing one, the innermost first, each with the trees before it in reverse; `done` holds the trees
since the last opening bracket in reverse. -/
def ofTokensAfter (enclosing : List (Token × List Tree)) (done : List Tree) :
    List Token → List Tree
  | [] =>
    enclosing.foldl (fun inner (opening, before) => before.reverse ++ .leaf opening :: inner)
      done.reverse
  | token :: rest =>
    if token.isSymbolIn ['(', '[', '\x7b'] then
      ofTokensAfter ((token, done) :: enclosing) [] rest
    else if token.isSymbolIn [')', ']', '\x7d'] then
      match enclosing with
      | (opening, before) :: outer =>
        ofTokensAfter outer (.group opening done.reverse token :: before) rest
      | [] => ofTokensAfter [] (.leaf token :: done) rest
    else ofTokensAfter enclosing (.leaf token :: done) rest

/-- The trees of a source. -/
def ofSource (s : Source) : List Tree :=
  ofTokensAfter [] [] (Token.ofSource s)

mutual

/-- The tokens of a tree, brackets included. -/
def tokens : Tree → List Token
  | .leaf token => [token]
  | .group opening items closing => opening :: (tokensOf items ++ [closing])

/-- The tokens of a list of trees. -/
def tokensOf : List Tree → List Token
  | [] => []
  | tree :: trees => tree.tokens ++ tokensOf trees

end

mutual

/-- How deep groups are nested in a tree. -/
def depth : Tree → Nat
  | .leaf _ => 0
  | .group _ items _ => depthOf items + 1

/-- How deep groups are nested in a list of trees. -/
def depthOf : List Tree → Nat
  | [] => 0
  | tree :: trees => max tree.depth (depthOf trees)

end

/-- The first token of a tree. -/
def first : Tree → Token
  | .leaf token => token
  | .group opening _ _ => opening

/-- The text from the first to the last token of some trees, with what stands between. -/
def source (trees : List Tree) : Source :=
  match tokensOf trees with
  | [] => []
  | token :: rest => token.text ++ rest.flatMap fun t => t.lead.flatMap Trivia.text ++ t.text

/-- Is a tree the given character of punctuation? -/
def isSymbol (c : Char) : Tree → Bool
  | .leaf token => token.isSymbolIn [c]
  | .group _ _ _ => false

/-- The text of a tree that is a word. -/
def word? : Tree → Option Source
  | .leaf token => if token.kind = .word then some token.text else none
  | .group _ _ _ => none

/-- Is a tree the given word? -/
def isWord (word : String) (tree : Tree) : Bool :=
  tree.word? = some (Source.ofText word)

/-- Is a tree one of the given words? -/
def isOneOf (words : List String) (tree : Tree) : Bool :=
  words.any tree.isWord

/-- The text of a tree that is a name: a word that does not start with a digit. -/
def name? (tree : Tree) : Option Source :=
  tree.word?.filter fun text => !text.head?.any fun c => c.any Char.isDigit

/-- The trees in a group with the given opening bracket. -/
def items? (opening : Char) : Tree → Option (List Tree)
  | .leaf _ => none
  | .group token items _ => if token.text = [some opening] then some items else none

/-- Is a tree a group with the given opening bracket? -/
def isGroup (opening : Char) (tree : Tree) : Bool :=
  (tree.items? opening).isSome

end Tree

end ClientGen.CSharp
