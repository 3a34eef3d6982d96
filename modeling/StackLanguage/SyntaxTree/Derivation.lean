import StackLanguage.SyntaxTree

namespace StackLanguage

/-! The derivation of a text in the rules of the grammar. Tokens with a meaning of their
own stay as leaves, keywords and punctuation are dropped, and an optional part that is
missing leaves a mark. -/

inductive Derivation where
  | rule (name : String) (children : List Derivation)
  | token (token : Token)
  | absent

namespace Derivation

def name (spelling : Spelling) : Derivation :=
  token ⟨.name, spelling.text, spelling.position⟩

def ofOption {Part : Type} (derive : Part → Derivation) (part : Option Part) :
    Derivation :=
  (part.map derive).getD absent

def ofLiteral : Literal → Derivation
  | .string spelling => rule "string" [token ⟨.string, spelling.text, spelling.position⟩]
  | .number spelling => rule "number" [token ⟨.number, spelling.text, spelling.position⟩]
  | .truth true _ => rule "true" []
  | .truth false _ => rule "false" []

def ofConversion (literal : Literal) (target : Spelling) : Derivation :=
  rule "conversion" [ofLiteral literal, name target]

def ofInitializer : Initializer → Derivation
  | .literal value => ofLiteral value
  | .conversion value target => ofConversion value target

def ofParameter (parameter : ParameterItem) : Derivation :=
  rule "param" [name parameter.type, ofOption name parameter.name]

def ofParameters (parameters : List ParameterItem) : Derivation :=
  if parameters.isEmpty then absent else rule "params" (parameters.map ofParameter)

def ofItem : Item → Derivation
  | .letBinding _ bound type initializer =>
      rule "let_stmt" [name bound, name type, ofOption ofInitializer initializer]
  | .function header body =>
      rule "fun_decl"
        [name header.name, ofParameters header.parameters, ofOption name header.result,
          rule "block" (body.map ofItem)]
  | .ifThen _ thenBody => rule "if_stmt" [rule "block" (thenBody.map ofItem), absent]
  | .ifThenElse _ thenBody elseBody =>
      rule "if_stmt"
        [rule "block" (thenBody.map ofItem), rule "block" (elseBody.map ofItem)]
  | .literal value => ofLiteral value
  | .conversion value target => ofConversion value target
  | .call callee => rule "call" [name callee]
  | .word word => rule "word" [name word]
  | .operator symbol => rule "operator" [token ⟨.operator, symbol.text, symbol.position⟩]
  | .block _ body => rule "block" (body.map ofItem)

def ofItems (items : List Item) : Derivation :=
  rule "start" (items.map ofItem)

end Derivation

end StackLanguage
