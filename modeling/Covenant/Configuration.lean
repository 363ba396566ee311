import Covenant.Request

namespace Covenant

/-- Engines address a method through one entry point, which this suffix marks. -/
def siteSuffix : String := "_0"

def methodId (method : String) : String := method ++ siteSuffix

namespace Configuration

def classKey : String := "classToCheck"
def relevantKey : String := "relevantClasses"
def methodKey : String := "methodToCheck"
def rootKey : String := "jmlParser.sourcePathStr"
def scopeKey : String := "typeScopes"

def toggles : List (String × Value) :=
  [("relevancyAnalysis", .bool true),
   ("checkNullDereference", .bool true),
   ("useJavaArithmetic", .bool false),
   ("checkArithmeticException", .bool false),
   ("inferScope", .bool true),
   ("objectScope", .int 3),
   ("loopUnroll", .int 3),
   ("skolemizeInstanceInvariant", .bool true),
   ("skolemizeInstanceAbstraction", .bool true),
   ("generateUnitTestCase", .bool true),
   ("attemptToCorrectBug", .bool false),
   ("maxStrykerMethodsPerFile", .int 1),
   ("removeQuantifiers", .bool true),
   ("useJavaSBP", .bool false),
   ("useTightUpperBounds", .bool false)]

def entries (s : Subject) (r : Request) : List (String × Value) :=
  [(classKey, .str s.path),
   (relevantKey, .str r.mergedDependencies),
   (methodKey, .str (methodId r.method)),
   (rootKey, .str s.sourceRoot)] ++
  toggles ++
  (if r.scope.isNull then [] else [(scopeKey, r.scope)])

def build (s : Subject) (r : Request) : Mapping :=
  (entries s r).map fun (k, v) => (.str k, v)

end Configuration

end Covenant
