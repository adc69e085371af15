import FindingLedger.Text.Span

/-!
# Casing

Two characters differ in case only when they fold to the same character. The table
lists, for each character that stands for its group, the others of the group, as runs
`first-last:image`, or `first=last:image` when every second code point has an image.
-/

namespace FindingLedger
namespace Text

/-- Characters at a fixed distance from those they fold to. -/
structure CasingRun where
  first : Nat
  last : Nat
  image : Nat
  step : Nat

namespace CasingRun

def ofWord (word : List Char) : CasingRun :=
  let image := hexValue (word.dropWhile (· != ':'))
  let heads := word.takeWhile (· != ':')
  let first := hexValue (heads.takeWhile fun c => c != '-' && c != '=')
  match heads.dropWhile fun c => c != '-' && c != '=' with
  | [] => ⟨first, first, image, 1⟩
  | mark :: last => ⟨first, hexValue last, image, if mark == '=' then 2 else 1⟩

def pairs (r : CasingRun) : List (Nat × Nat) :=
  (List.range ((r.last - r.first) / r.step + 1)).map fun place =>
    (r.first + r.step * place, r.image + r.step * place)

def table : List CasingRun :=
  (wordsOf
    "41-5A:61 4B:212A 53:17F B5:39C B5:3BC C0-D6:E0 C5:212B D8-DE:F8 DF:1E9E FF:178 100=12E:101
     132=136:133 139=147:13A 14A=176:14B 179=17D:17A 180:243 181:253 182=184:183 186:254 187:188
     189-18A:256 18B:18C 18E:1DD 18F:259 190:25B 191:192 193:260 194:263 195:1F6 196:269 197:268
     198:199 19A:23D 19B:A7DC 19C:26F 19D:272 19E:220 19F:275 1A0=1A4:1A1 1A6:280 1A7:1A8 1A9:283
     1AC:1AD 1AE:288 1AF:1B0 1B1-1B2:28A 1B3=1B5:1B4 1B7:292 1B8:1B9 1BC:1BD 1BF:1F7 1C4:1C5
     1C4:1C6 1C7:1C8 1C7:1C9 1CA:1CB 1CA:1CC 1CD=1DB:1CE 1DE=1EE:1DF 1F1:1F2 1F1:1F3 1F4:1F5
     1F8=21E:1F9 222=232:223 23A:2C65 23B:23C 23E:2C66 23F-240:2C7E 241:242 244:289 245:28C
     246=24E:247 250:2C6F 251:2C6D 252:2C70 25C:A7AB 261:A7AC 264:A7CB 265:A78D 266:A7AA 26A:A7AE
     26B:2C62 26C:A7AD 271:2C6E 27D:2C64 282:A7C5 287:A7B1 29D:A7B2 29E:A7B0 345:399 345:3B9
     345:1FBE 370=372:371 376:377 37B-37D:3FD 37F:3F3 386:3AC 388-38A:3AD 38C:3CC 38E-38F:3CD
     390:1FD3 391-398:3B1 392:3D0 395:3F5 398:3D1 398:3F4 39A-39B:3BA 39A:3F0 39D=3AB:3BD
     39E=3A0:3BE 3A0:3D6 3A1:3F1 3A3:3C2 3A4=3AA:3C4 3A6:3D5 3A9:2126 3B0:1FE3 3CF:3D7 3D8=3EE:3D9
     3F2:3F9 3F7:3F8 3FA:3FB 400-40F:450 410-42F:430 412:1C80 414:1C81 41E:1C82 421-422:1C83
     422:1C85 42A:1C86 460=480:461 462:1C87 48A=4BE:48B 4C0:4CF 4C1=4CD:4C2 4D0=52E:4D1
     531-556:561 10A0-10C5:2D00 10C7:2D27 10CD:2D2D 10D0-10FA:1C90 10FD-10FF:1CBD 13A0-13EF:AB70
     13F0-13F5:13F8 1C88:A64A 1C88:A64B 1C89:1C8A 1D79:A77D 1D7D:2C63 1D8E:A7C6 1E00=1E94:1E01
     1E60:1E9B 1EA0=1EFE:1EA1 1F00-1F07:1F08 1F10-1F15:1F18 1F20-1F27:1F28 1F30-1F37:1F38
     1F40-1F45:1F48 1F51=1F57:1F59 1F60-1F67:1F68 1F70-1F71:1FBA 1F72-1F75:1FC8 1F76-1F77:1FDA
     1F78-1F79:1FF8 1F7A-1F7B:1FEA 1F7C-1F7D:1FFA 1F80-1F87:1F88 1F90-1F97:1F98 1FA0-1FA7:1FA8
     1FB0-1FB1:1FB8 1FB3:1FBC 1FC3:1FCC 1FD0-1FD1:1FD8 1FE0-1FE1:1FE8 1FE5:1FEC 1FF3:1FFC
     2132:214E 2160-216F:2170 2183:2184 24B6-24CF:24D0 2C00-2C2F:2C30 2C60:2C61 2C67=2C6B:2C68
     2C72:2C73 2C75:2C76 2C80=2CE2:2C81 2CEB=2CED:2CEC 2CF2:2CF3 A640=A648:A641 A64C=A66C:A64D
     A680=A69A:A681 A722=A72E:A723 A732=A76E:A733 A779=A77B:A77A A77E=A786:A77F A78B:A78C
     A790=A792:A791 A794:A7C4 A796=A7A8:A797 A7B3:AB53 A7B4=A7C2:A7B5 A7C7=A7C9:A7C8 A7CC:A7CD
     A7D0:A7D1 A7D6=A7DA:A7D7 A7F5:A7F6 FB05:FB06 FF21-FF3A:FF41 10400-10427:10428
     104B0-104D3:104D8 10570=10594:10597 10571=10579:10598 1057D=10589:105A4 1058D=10591:105B4
     10595:105BC 10C80-10CB2:10CC0 10D50-10D65:10D70 118A0-118BF:118C0 16E40-16E5F:16E60
     1E900-1E921:1E922".toList).map ofWord

end CasingRun

/-- Every character that stands for its group, with each of the others of the group. -/
def casePairs : List (Nat × Nat) :=
  CasingRun.table.flatMap CasingRun.pairs

end Text
end FindingLedger
