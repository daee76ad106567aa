import TreeQuery.Selector.Evaluation
import TreeQuery.Selector.Parser
import TreeQuery.Text.Quoted

/-!
# Queries

A query is a selector that has been read, ready to be run against documents.  Running it from a
root gives every element at or below the root that matches, each before the elements below it.
-/

namespace TreeQuery

open Selector

variable [Pattern.Engine]

inductive QueryError where
  | emptySelector
  | invalidRoot (root : NodeId)
  | noDocumentRoot
  | parse (error : ParseError)
deriving DecidableEq, Repr

def QueryError.message : QueryError -> Text
  | .emptySelector => "selector must not be empty"
  | .invalidRoot root => root.render ++ " is not an element of this document"
  | .noDocumentRoot => "document has no root element"
  | .parse error => error.message

structure Query where
  source : Text
  matcher : Matcher
deriving Repr

namespace Query

/-! # Reading -/

def parse (text : Text) : Except QueryError Query :=
  let source := Text.trim text
  if source.isEmpty then .error .emptySelector
  else
    match (Selector.parse source).result with
    | .error error => .error (.parse error)
    | .ok matcher => .ok ⟨source, matcher⟩

def parseWarnings (text : Text) : List Warning :=
  let source := Text.trim text
  if source.isEmpty then [] else (Selector.parse source).warnings

def ofMatcher (matcher : Matcher) : Query :=
  ⟨matcher.render, matcher⟩

/-! # Running -/

def candidates (doc : Document) (root : NodeId) : Except QueryError (List NodeId) :=
  if doc.isElement root then .ok ((root :: doc.descendants root).filter doc.isElement)
  else .error (.invalidRoot root)

def select (query : Query) (doc : Document) (root : NodeId) :
    Except QueryError (List NodeId) :=
  match candidates doc root with
  | .error error => .error error
  | .ok found => .ok (found.filter (query.matcher.accepts doc root))

def selectFirst (query : Query) (doc : Document) (root : NodeId) :
    Except QueryError (Option NodeId) :=
  match candidates doc root with
  | .error error => .error error
  | .ok found => .ok (found.find? (query.matcher.accepts doc root))

/-- Every element of the document at or below its root element that matches. -/
def selectDocument (query : Query) (doc : Document) : Except QueryError (List NodeId) :=
  match doc.root with
  | none => .error .noDocumentRoot
  | some root => query.select doc root

def selectAll (query : Query) (doc : Document) :
    List NodeId -> Except QueryError (List NodeId)
  | [] => .ok []
  | root :: rest =>
      match query.select doc root with
      | .error error => .error error
      | .ok found =>
          match query.selectAll doc rest with
          | .error error => .error error
          | .ok more => .ok (found ++ more)

end Query

def query (doc : Document) (root : NodeId) (text : Text) : Except QueryError (List NodeId) :=
  match Query.parse text with
  | .error error => .error error
  | .ok query => query.select doc root

def queryFirst (doc : Document) (root : NodeId) (text : Text) :
    Except QueryError (Option NodeId) :=
  match Query.parse text with
  | .error error => .error error
  | .ok query => query.selectFirst doc root

def queryDocument (doc : Document) (text : Text) : Except QueryError (List NodeId) :=
  match Query.parse text with
  | .error error => .error error
  | .ok query => query.selectDocument doc

/-! # Events -/

inductive Event where
  | parsed (query : Query)
  | matched (query : Query) (count : Nat) (root : NodeId)
deriving Repr

inductive Level where
  | info
  | debug
  | trace
deriving DecidableEq, Repr

namespace Event

def level : Event -> Level
  | .parsed _ => .debug
  | .matched _ _ _ => .trace

def isToldAt (event : Event) : Level -> Bool
  | .info => false
  | .debug => event.level == .debug
  | .trace => true

def message : Event -> Text
  | .parsed query =>
      "parsed selector " ++ Text.quote query.source ++ " as `" ++ query.matcher.render ++ "`"
  | .matched query count root =>
      "`" ++ query.matcher.render ++ "` matched " ++ Text.ofNat count ++ " element(s) under " ++
        root.render

end Event

def queryEvents (doc : Document) (root : NodeId) (text : Text) : List Event :=
  match Query.parse text with
  | .error _ => []
  | .ok query =>
      match query.select doc root with
      | .error _ => [.parsed query]
      | .ok found => [.parsed query, .matched query found.length root]

end TreeQuery
