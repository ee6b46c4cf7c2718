import Unmask.Text.Case
/-!
# The vocabulary of programmers

Names that people choose: common words of the trade, words put together in the usual ways, and names
in camel case.
-/

namespace Unmask.Vocabulary

/-- Words for what methods do. -/
def methodTerms : List String := [
  "get", "set", "is", "has", "can", "add", "put", "remove", "clear", "size", "init", "start",
  "stop", "run", "call", "execute", "invoke", "apply", "read", "write", "load", "save", "open",
  "close", "create", "destroy", "show", "hide", "enable", "disable", "update", "refresh", "reset",
  "parse", "format", "convert", "encode", "decode", "encrypt", "decrypt", "send", "receive",
  "post", "fetch", "request", "response", "bind", "unbind", "attach", "detach", "connect",
  "disconnect", "register", "unregister", "subscribe", "unsubscribe", "validate", "verify",
  "check", "test", "compare", "equals", "copy", "clone", "merge", "split", "join", "concat",
  "find", "search", "filter", "sort", "reverse", "shuffle", "log", "debug", "info", "warn",
  "error", "trace"]

/-- Words for what fields hold. -/
def fieldTerms : List String := [
  "id", "key", "value", "name", "type", "data", "text", "title", "label", "url", "uri", "path",
  "file", "dir", "root", "home", "base", "min", "max", "count", "total", "sum", "avg", "index",
  "offset", "length", "width", "height", "x", "y", "z", "top", "left", "right", "bottom", "red",
  "green", "blue", "alpha", "color", "font", "style", "enabled", "visible", "active", "valid",
  "ready", "done", "busy", "parent", "child", "next", "prev", "first", "last", "current",
  "input", "output", "source", "target", "origin", "dest", "user", "admin", "guest", "owner",
  "author", "creator", "time", "date", "year", "month", "day", "hour", "minute", "second", "tag",
  "flag", "mode", "state", "status", "code", "result", "list", "map", "array", "queue", "stack",
  "tree", "graph", "config", "setting", "option", "param", "arg"]

/-- Words for the parts of an app. -/
def androidTerms : List String := [
  "view", "layout", "widget", "button", "image", "icon", "drawable", "activity", "fragment",
  "service", "receiver", "provider", "intent", "bundle", "cursor", "adapter", "holder",
  "context", "app", "application", "system", "manager", "handler", "thread", "task", "job",
  "worker", "async", "listener", "callback", "observer", "event", "action", "menu", "item",
  "dialog", "toast", "snackbar", "popup", "recycler", "scroll", "pager", "tab", "toolbar", "fab",
  "notification", "alarm", "broadcast", "permission"]

/-- Words for the roles of classes. -/
def classTerms : List String := [
  "activity", "fragment", "service", "receiver", "provider", "adapter", "holder", "manager",
  "helper", "util", "utils", "factory", "builder", "parser", "handler", "listener", "callback",
  "impl", "base", "abstract", "default", "custom", "simple", "model", "entity", "bean", "dto",
  "vo", "po", "dao", "repository", "controller", "presenter", "viewmodel", "module",
  "component", "inject", "scope", "qualifier", "test", "mock", "stub", "fake", "spy"]

/-- Short words and usual abbreviations. -/
def shortTerms : List String := [
  "on", "do", "new", "old", "tmp", "temp", "obj", "ref", "ptr", "ctx", "msg", "cmd", "evt",
  "err", "ex", "e", "i", "j", "k", "n", "m", "sb", "db", "io", "ui", "rx", "tx"]

/-- Every common word, in small letters. -/
def commonTerms : List String := methodTerms ++ fieldTerms ++ androidTerms ++ classTerms ++ shortTerms

/-- The words that open the names of methods. -/
def camelHeads : List String := ["get", "set", "is", "has", "can", "on", "do", "new"]

/-- The words that close the names of classes with a part in a framework. -/
def frameworkTails : List String := [
  "Listener", "Callback", "Handler", "Adapter", "Helper", "Manager", "Factory", "Builder",
  "Impl", "Activity", "Fragment", "Service", "Receiver", "Provider", "View", "Layout", "Model"]

/-- Whether the name is a common word, in whatever case. -/
def isCommonTerm (name : String) : Bool :=
  commonTerms.contains (String.ofList (Text.lowercase name.toList))

/-- Whether a name opens with a word, in whatever case, and goes on with a capital. -/
def opensWith (word name : List Char) : Bool :=
  word.isPrefixOf (Text.lowercase name) && (name.drop word.length).head?.any Text.isUpper

/-- Whether a name ends in a word and has something before it. -/
def closesWith (word name : List Char) : Bool :=
  word.isSuffixOf name && word.length < name.length

/-- Whether the name is put together in a usual way: a verb and a capital, or something and a word
for a part in a framework. -/
def hasCommonPattern (name : String) : Bool :=
  4 ≤ name.length &&
    (camelHeads.any (fun w => opensWith w.toList name.toList) ||
      frameworkTails.any fun w => closesWith w.toList name.toList)

/-- Whether two characters are a capital and a small letter, in either order. -/
def isTransition (a b : Char) : Bool :=
  (Text.isUpper a && Text.isLower b) || (Text.isLower a && Text.isUpper b)

/-- Whether a name has capitals and small letters, and somewhere one beside the other. -/
def isCamelCase (name : String) : Bool :=
  let s := name.toList
  3 ≤ s.length && s.any Text.isLower && s.any Text.isUpper &&
    (s.zip s.tail).any fun (a, b) => isTransition a b

end Unmask.Vocabulary
