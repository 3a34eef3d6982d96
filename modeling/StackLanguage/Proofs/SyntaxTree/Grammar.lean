import StackLanguage.Proofs.Token.Terminals
import StackLanguage.SyntaxTree.Derivation

namespace StackLanguage

/-! The grammar, one constructor for each production, and what it derives. A symbol stands
for a list of trees, as items stand in their parent without a node of their own, together
with the lexemes that it is written with. An optional part that is missing leaves a mark
in the tree. -/

inductive Symbol where
  | start
  | items
  | item
  | block
  | letStatement
  | optionalInitializer
  | initializer
  | function
  | optionalParameters
  | parameters
  | moreParameters
  | parameter
  | optionalName
  | optionalResult
  | ifStatement
  | optionalElse
  | conversion
  | literal
  | call
  | word
  | operator
deriving DecidableEq

def Derivation.leaf (terminal : Terminal) (spelling : Spelling) : Derivation :=
  .token ⟨terminal, spelling.text, spelling.position⟩

open StackLanguage.Derivation (rule leaf)
open Terminal (IsName IsNumber IsString operatorTexts)

inductive Derives : Symbol → List Derivation → List Lexeme → Prop
  | start {trees lexemes} (items : Derives .items trees lexemes) :
      Derives .start [rule "start" trees] lexemes
  | noItem : Derives .items [] []
  | moreItems {first firstLexemes rest restLexemes}
      (item : Derives .item first firstLexemes)
      (items : Derives .items rest restLexemes) :
      Derives .items (first ++ rest) (firstLexemes ++ restLexemes)
  | itemLet {trees lexemes} (tree : Derives .letStatement trees lexemes) :
      Derives .item trees lexemes
  | itemFunction {trees lexemes} (tree : Derives .function trees lexemes) :
      Derives .item trees lexemes
  | itemIf {trees lexemes} (tree : Derives .ifStatement trees lexemes) :
      Derives .item trees lexemes
  | itemLiteral {trees lexemes} (tree : Derives .literal trees lexemes) :
      Derives .item trees lexemes
  | itemConversion {trees lexemes} (tree : Derives .conversion trees lexemes) :
      Derives .item trees lexemes
  | itemCall {trees lexemes} (tree : Derives .call trees lexemes) :
    Derives .item trees lexemes
  | itemWord {trees lexemes} (tree : Derives .word trees lexemes) :
    Derives .item trees lexemes
  | itemOperator {trees lexemes} (tree : Derives .operator trees lexemes) :
      Derives .item trees lexemes
  | itemBlock {trees lexemes} (tree : Derives .block trees lexemes) :
    Derives .item trees lexemes
  | block {trees lexemes} (items : Derives .items trees lexemes) :
      Derives .block [rule "block" trees]
        (.punctuation .leftBrace :: lexemes ++ [.punctuation .rightBrace])
  | letStatement {name type initial lexemes} (isName : IsName name.text.toList)
      (isType : IsName type.text.toList)
      (initializer : Derives .optionalInitializer initial lexemes) :
      Derives .letStatement
        [rule "let_stmt" ([leaf .name name, leaf .name type] ++ initial)]
        ([.keyword .letWord, .name name, .punctuation .colon, .name type] ++ lexemes)
  | noInitializer : Derives .optionalInitializer [.absent] []
  | someInitializer {trees lexemes} (initializer : Derives .initializer trees lexemes) :
      Derives .optionalInitializer trees (.punctuation .equal :: lexemes)
  | initializerLiteral {trees lexemes} (literal : Derives .literal trees lexemes) :
      Derives .initializer trees lexemes
  | initializerConversion {trees lexemes}
      (conversion : Derives .conversion trees lexemes) :
      Derives .initializer trees lexemes
  | function {name parameters parameterLexemes result resultLexemes block blockLexemes}
      (isName : IsName name.text.toList)
      (someParameters : Derives .optionalParameters parameters parameterLexemes)
      (someResult : Derives .optionalResult result resultLexemes)
      (body : Derives .block block blockLexemes) :
      Derives .function
        [rule "fun_decl" ([leaf .name name] ++ parameters ++ result ++ block)]
        ([.keyword .funWord, .name name] ++ parameterLexemes ++ resultLexemes ++
          blockLexemes)
  | noParameters : Derives .optionalParameters [.absent] []
  | someParameters {trees lexemes} (parameters : Derives .parameters trees lexemes) :
      Derives .optionalParameters trees (.punctuation .colon :: lexemes)
  | parameters {first firstLexemes rest restLexemes}
      (parameter : Derives .parameter first firstLexemes)
      (more : Derives .moreParameters rest restLexemes) :
      Derives .parameters [rule "params" (first ++ rest)] (firstLexemes ++ restLexemes)
  | noMoreParameters : Derives .moreParameters [] []
  | moreParameters {first firstLexemes rest restLexemes}
      (parameter : Derives .parameter first firstLexemes)
      (more : Derives .moreParameters rest restLexemes) :
      Derives .moreParameters (first ++ rest)
        (.punctuation .comma :: firstLexemes ++ restLexemes)
  | parameter {type name lexemes} (isType : IsName type.text.toList)
      (someName : Derives .optionalName name lexemes) :
      Derives .parameter [rule "param" ([leaf .name type] ++ name)]
        (.name type :: lexemes)
  | noName : Derives .optionalName [.absent] []
  | someName {name} (isName : IsName name.text.toList) :
      Derives .optionalName [leaf .name name] [.name name]
  | noResult : Derives .optionalResult [.absent] []
  | someResult {type} (isType : IsName type.text.toList) :
      Derives .optionalResult [leaf .name type] [.punctuation .arrow, .name type]
  | ifStatement {thenTree thenLexemes elseTree elseLexemes}
      (thenBlock : Derives .block thenTree thenLexemes)
      (elsePart : Derives .optionalElse elseTree elseLexemes) :
      Derives .ifStatement [rule "if_stmt" (thenTree ++ elseTree)]
        (.keyword .ifWord :: thenLexemes ++ elseLexemes)
  | noElse : Derives .optionalElse [.absent] []
  | someElse {trees lexemes} (elseBlock : Derives .block trees lexemes) :
      Derives .optionalElse trees (.keyword .elseWord :: lexemes)
  | conversion {trees lexemes target} (literal : Derives .literal trees lexemes)
      (isTarget : IsName target.text.toList) :
      Derives .conversion [rule "conversion" (trees ++ [leaf .name target])]
        (lexemes ++ [.punctuation .atSign, .name target])
  | string {spelling} (isString : IsString spelling.text.toList) :
      Derives .literal [rule "string" [leaf .string spelling]] [⟨.string, spelling.text⟩]
  | number {spelling} (isNumber : IsNumber spelling.text.toList) :
      Derives .literal [rule "number" [leaf .number spelling]] [⟨.number, spelling.text⟩]
  | trueWord : Derives .literal [rule "true" []] [.keyword .trueWord]
  | falseWord : Derives .literal [rule "false" []] [.keyword .falseWord]
  | call {name} (isName : IsName name.text.toList) :
      Derives .call [rule "call" [leaf .name name]]
        [.name name, .punctuation .leftParenthesis, .punctuation .rightParenthesis]
  | word {name} (isName : IsName name.text.toList) :
      Derives .word [rule "word" [leaf .name name]] [.name name]
  | operator {symbol} (isOperator : symbol.text ∈ operatorTexts) :
      Derives .operator [rule "operator" [leaf .operator symbol]]
        [⟨.operator, symbol.text⟩]

end StackLanguage
