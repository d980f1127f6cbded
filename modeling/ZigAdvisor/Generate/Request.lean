import ZigAdvisor.Text.Case

/-!
# Requests for source code

A request in plain words is searched for keywords, in any case. There is no negation: a request
not to handle errors asks for error handling.
-/

namespace ZigAdvisor

inductive Feature
  | create
  | implement
  | build
  | function
  | struct
  | type
  | enum
  | union
deriving DecidableEq

namespace Feature

def all : List Feature := [build, create, enum, function, implement, struct, type, union]

def keyword : Feature → String
  | create => "create"
  | implement => "implement"
  | build => "build"
  | function => "function"
  | struct => "struct"
  | type => "type"
  | enum => "enum"
  | union => "union"

end Feature

structure CodeRequest where
  features : List Feature
  errorHandling : Bool
  testing : Bool
  performance : Bool

namespace CodeRequest

def errorWords : List String := ["error", "handle", "catch", "try", "fail"]

def testWords : List String := ["test", "verify", "check", "validate"]

def performanceWords : List String := ["fast", "optimize", "performance", "efficient", "speed"]

def mentions (t : Text) (words : List String) : Bool := words.any fun w => t.contains w

/-- The text that is searched: prompt and context in lower case, the empty ones left out. -/
def searched (prompt context : Text) : Text :=
  Text.lower (Text.join " " ([prompt, context].filter fun part => !part.isEmpty))

def read (prompt context : Text) : CodeRequest :=
  let text := searched prompt context
  { features := Feature.all.filter fun f => text.contains f.keyword
    errorHandling := mentions text errorWords
    testing := mentions text testWords
    performance := mentions text performanceWords }

end CodeRequest

end ZigAdvisor
