import JsxDetect.Automaton.Packed

/-!
# Parsing automaton: sets of symbols

The sets of symbols that share an entry in some row, most frequent first.  Each is a number with
a bit for each symbol, counted from the first token or from the first symbol that is no token.
-/

namespace JsxDetect.Automaton

/-- Sets of tokens, 0 to 63. -/
def tokenSets000 : List Nat := [
  0x8000000000000020000000000000000000000000000, 0x1000000000000000000000000, 0x2000000,
  0x100000000000, 0x100000000000000, 0x200000000000000, 0x40000000000000000000000000000, 0x2, 0x100,
  0x800, 0x3000000000000000000000000000, 0x20000000000000000, 0x80,
  0x1000000000000000000000000000000000004001000, 0x2000000000000000,
  0x200000000000000000000000000000000, 0x4000000000000000, 0x1000000000000000000000000000000,
  0x10000000000000000000000, 0x1000000000000000, 0x400, 0x40000000000000000000000,
  0x180000000000000000000000, 0x10000000, 0x80000000000, 0x800000000000, 0x40000000000000000,
  0x200000000000000000000000, 0x100000000000000000000000000000000, 0x20000000000000,
  0xe00180000000000000000104000, 0xf8800000000000000000000000000000, 0x10,
  0x7ffbc00000000000000000000000000040048, 0x8000000000000000000000000000000000000,
  0x4000000000000000000000000000000000, 0x8000000000, 0x8000000000000000,
  0x800000000000000000000000000000000, 0x10000000000000000, 0x80000,
  0x1800000000000000000000000000000, 0x1000, 0x3fff80000000000000000, 0x800000000000000000000000,
  0x100000, 0x600000000000000000000010, 0x8000000000000000000000000000000, 0xe000000000000000000000,
  0x142000000000008000020000000, 0x80000000000000000000000000000000000000000,
  0x3c000000000000000000000000, 0x2000, 0x4000, 0x200, 0x10000000000000000000000000000000000000000,
  0x40000000000000000000000000000000000000000, 0x20000000000000000000000,
  0x300007e00000000400000000000000000000000000, 0x400000000000000000000000000000000000000800,
  0x80000000000000000000000000000000000000, 0x20000000000000000000000000000000000000,
  0x800000000000000000000, 0x1000000000000000000000]

/-- Sets of tokens, 64 to 127. -/
def tokenSets064 : List Nat := [
  0x1e0800000000000000000000000000000, 0x80000000000000000000000000,
  0x4000000000000000000000000000000000000000000, 0x3000000000000000000000000000000000,
  0x1800000000000000000000000000000000004003000, 0x200000000000, 0x4000000,
  0x7ffbc0000000000000002200000000004044a, 0xc0fffbff9843e01380000067300997f97ff6ceb,
  0x80000000000000000000000000000000000, 0x8000000, 0x8000000000000000000000000000000000, 0x40, 0x8,
  0x400000000000000000000, 0x40000200000000431fffff800010028100022100210, 0x20000, 0x40000,
  0x800000000000000000000000000000000000000, 0x100000000000000000000000000000000000,
  0x400000000000000000000000000000000000000, 0x8000000000000, 0x70000000000000000000000000000000000,
  0x1000000000000000000000000000000000000000000, 0x40001200000000431fffff80001002830806e103a10,
  0x400000000000000000000000000000000, 0x10000, 0x80000000,
  0x50000200000000431fffff800010028100066103210, 0x400000, 0x800000, 0x1000000, 0x100000000,
  0x200000000, 0x400000000, 0x800000000, 0x1000000000, 0x2000000000, 0x4000000000, 0x3000,
  0x1000000000000000000000000000000000004000000, 0x7ef3c00000000000000000000000000000000,
  0x40001a00000000431fffff80001002830806e103a10, 0x50000a00000000431fffff800010028100066103210,
  0x4000000001000000000000008002000000, 0x11000080000000000000050000000000100004001800,
  0x100000000000000000000000000000000000000, 0x1800080000000000000050000000000100004003900,
  0x800000000000000000000000000000000000002000, 0x1800000004000000001000000000000008006000000,
  0x7f08000000000000000000000000000040442, 0x1000000004000000001000000000000008006101100,
  0x80000000000000, 0x10000000000002, 0xf0800000000000000000000000000000,
  0x1000000000000000002000000, 0x7ff8c0000000000000002000000000004044a,
  0x7ff8c0000000000000002200000000004044a, 0x4000000001000000000000000002000000,
  0x7e00000000000000000000000000000000000, 0x7ffbc0180000000000002230010000004045a,
  0x80004000000000050000008008308008003b00, 0x20000000, 0x7ffbc00000000000000022000000000040448]

/-- Sets of tokens, 128 to 191. -/
def tokenSets128 : List Nat := [
  0x800000000000000000000000000000, 0x40000200000000431fffaf800010028000022100210,
  0x20000000000000000000000000000000000000000, 0x50000000000100000000000,
  0x400000000000000000000000000, 0xe0800000000000000000000000000000,
  0x10000000000000000000000000000000, 0x300000000000000000000000000000000000000000,
  0x400000000000000000000000000000000000000000, 0x40000000,
  0x80000000000000000000000000000000001000, 0xa00000000000000000000100000,
  0x1800000004000000001000000000000008006003000, 0x7f7840000000000000002000000000004044a,
  0x1000000004000000000000000000000008004101100, 0x1fb400000000000000000000000000040048,
  0x50000000008100000000000, 0x1000000000046000000000800, 0x4000000000000000000000008008001100,
  0x8000400000000105000001802830800a003b00, 0x1800080000000000001050000010020100006003900,
  0x11000080000000000001050000010020100006001800, 0x80000000000000000000000000000,
  0x50000200000000431fefff800010028100024101210, 0x98000000000802,
  0x40000200000000001fec7f800010008000020000210, 0x200000001000, 0x50000000008100000001000,
  0x80000000000000050000000008100000001000, 0x20, 0x10000000000000000000000000000000000000,
  0xf8000000000000000000000000000000, 0x50000200000000431fffff800010028100026101210,
  0x2000000000000000000000000000000000000000000, 0x8000, 0x4000000000000000000000208008003000,
  0x8000000000000000000000000000000000000000, 0x100000000000000000000000000000000001800,
  0x8008001000, 0x50000200000000431fffff800010028100026100210,
  0x40000200000000431fefff800010028100020100210, 0x100001fffbe0180000018000002230010000404245a,
  0x7ff840000000000000002000000000004044a, 0x50000200000000431fefff800010028000024101200,
  0x20800c003000, 0x1000000000000000000000000000000000044001000,
  0x11000000000000000000000000000000000004001000, 0x14000000000000000000000000000,
  0x18000000000000000000000000000, 0x1000000000000000000000000000000000004003000, 0x80200000,
  0x8000002000, 0x7ffb40000000000000002200000000004044a, 0x7f0b400000000000000000000000000040048,
  0x40000200000000001fec7f800010028000020001210, 0x80000000000000050000000000000000000000,
  0x40000200000000431fffff800010028100026101210, 0x80000000000000050000000000300000000200,
  0x40000200000000001fec7f800010028000020000210, 0x200000000000000000000000000000000000000,
  0x800000000000000000000000000000000000000000, 0x7f0000000000000000002000000000004044a,
  0x40000200000000431fffff800010028300022100210, 0x50000200000000431fffffbfff90028100066103310]

/-- Sets of tokens, 192 to 255. -/
def tokenSets192 : List Nat := [
  0x4000000000000000000000008008001000, 0x208008003000,
  0x5000c2fffbff9843ffffff800077328997fb7ff7efb, 0xc0fffbff9843e01380000067300987f97df4cca,
  0x1800080000000000000000000000000000004000000, 0x80000000000000000000000000200000001000,
  0x1fffbe0180000018000002230010000404245a, 0x11000000000000000000000000000000000004001800,
  0x8000000001000, 0x10000000000000000000000000000000000000000000, 0x10000000000000,
  0x40000200000000431fffff800010028100062100210, 0x7f0800000000000000002000000000004044a,
  0x40001200000000431fffaf80001002830806e103a10, 0x50000200000000431fffaf800010028100066103210,
  0x6000000000000, 0x40000000000000, 0x60000000, 0x10000000000000000000000000000,
  0x1000000000000000000000000000000000000000, 0x2000000000000000000000000000000000000000,
  0x4000000000000000000000000000000000000000, 0x8001000,
  0x400000000000000000000000000000000000001800, 0xe00000000000000000000004000,
  0x180000000000000000100000, 0x10b400000000000000000000000000040048, 0x200000003000,
  0x7ef3c00000000000000000000000000000008, 0x40000200000000431fffff800010028100006101210,
  0x80004000000000050000000000300000001000, 0x4001000, 0x800000000000000000000000000000000004003000,
  0x1000000000000000000000000000000008064001100, 0x40001200040000431fffffbfff9002830806e103b10,
  0x50000200000000431fffaf800010020000026100210, 0x80004000000000000000000000000000000000,
  0x58000200000000431fffff8000100281000e6303210, 0x4000000000000000000000000000000100,
  0x8000000000000000000000000000002, 0x8008308008003900,
  0x1800000000000000000000000000000100004003900, 0x11000000000000000000000000000000100004001800,
  0x4000000000000000000000300000001000, 0x300000000200,
  0x50000200000000001fec7f800010008000024001210, 0x40000200000000031fee2f800010028000020100200,
  0x50000200000000431fefff800010028000024101210, 0x40000200000000431fffff80001002830802e103210,
  0x50000200000000431fffff800010028100026103210, 0x50000200000000431fffff800010028100066101210,
  0x40001200000000431fffff800010028100022101a10, 0x40000200000000431fefaf800010008000022100210,
  0x40000200000000431fffff800010028100002100210, 0x8000001000, 0x50000000000100000002000,
  0x50000200000000431fffaf800010020000066102210, 0x8000400000000005000000802830800a003b00,
  0x1800000004000000000000000000000008004000000, 0x1800080000000000000050000010020100004003900,
  0x1800080000000000000050000000020100006003900, 0x11000080000000000000050000010020100004001800,
  0x11000080000000000000050000000020100006001800, 0x1800000000000000000000000000000000004003800]

/-- Sets of tokens, 256 to 319. -/
def tokenSets256 : List Nat := [
  0x8000000000000800, 0x1, 0x1800080000000000000050000000000100004003000,
  0xc8ffffff9843e013d000006f308b9ff9fff7deb, 0x40000200000000431fffff800010028108022102210,
  0x40000200000000431fffaf800010028000022101210, 0x40001a00040000431fffff80001002830806e103a10,
  0x40001200000000431fffaf80001002020802e102a10, 0x40001200000000431fffff80001002830802e103a10,
  0x40001a00000000431fffff80001000830806e103a10, 0x400000000000000000000000000000,
  0x40000200000000431fffaf800010020208062102210, 0x50000a00000000431fffff800010008100066103210,
  0x8000000100, 0x7f7b40000000000000002200000000004044a, 0x1fffbe0180000000000002230010000004045a,
  0x40001000000010000000002000000, 0x80000000000000050000008008308008003900,
  0x4000000000000000000000208068003100, 0x4000000000000000000000000000100000,
  0x2000000000000010000000000000000000000000000, 0x400000000000, 0x1000000000000,
  0x200000000000000000000000000000, 0x100000000000000000000000000000,
  0x2000000000000000000000000000000000000, 0x10000002020,
  0x40000200000000001fec7f800010008200020000210, 0x7ffbc00000000000000000000000000000048,
  0x7ffbff9843e01380400067300980012144cca, 0x7ffb400000000000000000000000000040048,
  0xc0fffbff9843e013800000673009f7f97ff7ceb, 0x50000200000000431fefff800010028100024100210,
  0x1800c0fffbff9843e01380000067300997f97ff7ceb, 0x40000200000000431fefaf800000008000020100210,
  0xfffbff9843e01380400067300980012144cca, 0x80000000000000000000000000000008000000,
  0x7f7b00000000000000002200000000004044a, 0x4000000000000000000000208008003100,
  0x1800000004000000001000000000000008006103100, 0x4000000000000000000000008000001100,
  0x8000400004000005000000800830800a003b00, 0x1800000000000000000000000000000000004003900,
  0x1800080000000040000050000000000100006003900, 0x4040, 0x40000000000000098000002000802,
  0x1800000000000000000000000000000008004003800, 0x11000000000000000000000000000000008004001800,
  0x8000008000000800, 0x1000000000000000000000000000000000004008000, 0x200008001000,
  0x50000200000000431fefff800010028100024101000, 0x7ff8c00000000000000022000000000040448,
  0x50000200000000431fffff800010028100026101000, 0x40000200000000431fefff800010028300020100210,
  0xc0fffbff9843e01380000067300997f97ff64eb, 0x200000, 0xc0fffbff9843e013800000673009d7f97ff6ceb,
  0x8ffffff9843e013d040007f328b8801a147dca, 0x50000200000000431fffff800010028000026101210,
  0x80000000000000050000000000100008002000, 0x4000000000000000000000008000001000,
  0x40001a00000000431fefff80001000830806c103a10, 0x50000a00000000431fefff800010008100064103210]

/-- Sets of tokens, 320 to 383. -/
def tokenSets320 : List Nat := [
  0x58000a00000000431fffff800010028100066103210, 0x50000000000100000003000,
  0x50000000000300000001000, 0x40000200000000431fffaf800010028008022101210, 0x40000100, 0x1100,
  0x9ffffe0180000005000002232030000004145a, 0x7f7800000000000000002000000000004044a,
  0x80004000000000050000008008308008003900, 0x80004000000000050000018028308008003b00, 0x9000,
  0x8000200008001900, 0x80000000000000050000010020300000000200, 0x1000000000000000000100000000002,
  0x10000000000, 0x180000000000000000000000000000002000900, 0x8068000100,
  0x100000000000000000000000000000000000800, 0x404000000000000, 0x804000000000000,
  0x400080000000000000000000000000000000000800, 0x40000200000000001fec2f800010028000020000200,
  0xa00000000000000000000000000, 0x40000200000000001fec7f80001000820802c003210,
  0x50000200000000001fec7f800010008000024003210, 0x50000200000000001fec7f800010008000064001210,
  0x50000200000000001fec7f800010008000024000210, 0x40000200000000001fec7f800010008008020002210,
  0x40001200000000001fec7f800010008000020001210, 0x40000200000000001fec7f800010008000060000210,
  0x80004000000000050000000008300008003000, 0x5000c2fffbff9843ffffff800077308997fb7ff76fb,
  0x4000c2fffbff9843ffffff800077328997fb7ff7efb, 0x7f7b400000000000000000000000000040048,
  0xc8ffffff9843e013d000006f308b9ff9ffffdeb, 0x40000000000,
  0x800c0fffbff9843e01380000067300997f97ff7ceb, 0xc0fffbff9843e01380000067320997f97ff6ceb,
  0x1000c0fffbff9843e01380000067300997f97ff6ceb, 0x40001200040000431fffffbfff9002830802e103b10,
  0x50000200000000431fffff800010028000026100210, 0x40001200000000431fffffbfff9002830806e103b10,
  0x40000200000000431fffaf80001002020802e102210, 0x1800080000000000000000000000000000004003000,
  0x50000200000000431fffaf800010020000026102210, 0x40000200000000431fffffbfff90028108062102310,
  0x40000200000000431fffffbfff90028100022103310, 0x50000200000000431fffaf800010020000066100210,
  0x80000000000000050000000000300000001000, 0x80004000000000000000000000200000001000,
  0x40001200000000431fffaf800010020000022100a10, 0x40000200000000431fffaf800010020008022102210,
  0x50000200000000431fffffbfff90028100026100310, 0x40000200000000431fffffbfff90028300022101310,
  0x40000200000000431fffaf800010020200022100210, 0x40000200000000431fffaf800010020000062100210,
  0x40000200000000431fffff800010028300002100210, 0x40000200000000431fffaf800010020000022100210,
  0x40000200000000431fffffbfff90028300022100310, 0x58000a00040000431fffff8000100281080e6303a10,
  0x40001a00000000431fefff80001000830806e103a10, 0x40201a00000000431fffff80001002830806e103a10,
  0x58000200000000431fffff8000100081000e6303210, 0x40001200000000431fffff80001000830806e103210]

/-- Sets of tokens, 384 to 447. -/
def tokenSets384 : List Nat := [
  0x40001a00000000431fffff80001002820806e103a10, 0x40001a00000000431fffef80001002830806e103a10,
  0x58000200000000431fffff8000100281000e6303a10, 0x7f0b00000000000000002200000000004044a,
  0x48000200000000431fffff8000100281000e6303210, 0x50000a00000000431fefff800010008100066103210,
  0x142000000000008000000000000, 0x50200a00000000431fffff800010028100066103210,
  0x40000200000000431fffff800010028108062102210, 0x80000000000000000000000000200008001000,
  0x1fffbc0180000000000002230010000004045a, 0x50000a00000000431fffff800010028000066103210,
  0x50000a00000000431fffef800010028100066103210, 0x40000200000000431fffaf800000008000022100210,
  0x40000200000000431fffff800010028100022103210, 0x4000000000000000000000008000000000,
  0x40000200000000031fffff800010028100020100210, 0x80004000000000000000000000000008000000,
  0x50000000000100008002000, 0x1fffbe0180000018000002230010000004245a,
  0x7f7000000000000000002000000000004044a, 0x7f7840000000000000002200000000004044a,
  0x80004000000001050000008008308008003b00, 0x1800080004000000001050000000000108006113900,
  0x20080004000000000050000008008308008003b00, 0x80004000000000050000008028308008003b00,
  0x80004000000000050000008008208008003b00, 0x80000000000000040000008008308008003900,
  0x1800080000000000001050000000000100004003900, 0x1820080000000000000050000000000100004003900,
  0x1800080000000000000050000000020100004003900, 0x80004000000001050000000000308002003200,
  0x1800080000000000000050000000000000004003900, 0x1800080000000000000040000000000100004003900,
  0x11000080000000000001050000000000100004001800, 0x11020080000000000000050000000000100004001800,
  0x11000080000000000000050000000020100004001800, 0x11000080000000000000050000000000000004001800,
  0x11000080000000000000040000000000100004001800, 0x10000000000b8000080000802,
  0x80000000000000000000000000008000000000, 0x20800c002000,
  0x1800000000000000000000000000020000004003800, 0x80004000000000040000000000300000001000,
  0x80000000000000040000000000300000000200, 0x400000000000000001000000000000000000001800,
  0x20000000000000c0000000000000000000000000000, 0x40000000000000000000000000000000000000,
  0x1000000000000000000000000000000000004010000, 0x4000000000000000000000000000000,
  0x2000000000000000000000000000000, 0x3fffbfffffffff9f3ffffffffffff368bfffffffffff, 0x4,
  0x10000002021, 0x40001200000000001fec7f80001000820806c003210,
  0x50000200000000001fec7f800010008000064003210, 0x40000200000000001fec7f800010008000004001210,
  0x40000200000000001fec7f800010008000000000210, 0x40000200000000001fec7f80001002820802c003200,
  0x50000200000000001fec7f800010028000024003200, 0x50000200000000001fec7f800010028000064001200,
  0x50000200000000001fec7f800010028000024000200, 0x40001200000000001fec7f800010028000020001200,
  0x40000200000000001fec7f800010028008020002200]

/-- Sets of tokens, 448 to 511. -/
def tokenSets448 : List Nat := [
  0x40000200000000001fec7f800010028000060000200, 0x40000200000000001fec7f800010028200020000200,
  0x40000200000000001fec7f800010028000020000200, 0x40000200000000031fee2f80001002820802c103200,
  0x50000200000000031fee2f800010028000024103200, 0x50000200000000031fee2f800010028000064101200,
  0x50000200000000031fee2f800010028000024100200, 0x40000200000000031fee2f800010028008020102200,
  0x40001200000000031fee2f800010028000020101200, 0x40000200000000031fee2f800010028200020100200,
  0x40000200000000031fee2f800010028000060100200, 0x5000c2fffbff9843ffffff800077328997fb7ff76fb,
  0x80000000000000050000000008300008001000, 0x50000200000000001fec7f800010028000020001210,
  0x40001200000000431fefff80001002830806c103a10, 0x40000200000000431fefff80001002830802c103210,
  0x50000200000000431fefff800010028100064103210, 0x50000200000000431fefff800010028100024103210,
  0x50000200000000431fefff800010028100064101210, 0x20000000000,
  0x40000200000000431fefff800010028100004101210, 0x40001200000000431fefff800010028100020101a10,
  0x40000200000000431fefff800010028108020102210, 0x40000200000000431fefff800010028100060100210,
  0x40000200000000431fefff800010028100000100210, 0xc0fffbff9843e01380000067300997f9fff6ceb,
  0xc0fffbff9843e01380000067300997f97df6ceb, 0xc0fffbff9843e01380000067300997f93ff6ceb,
  0x40000200000000431fffff800010028000006101210, 0x40000200000000431fefaf80000000020802c102210,
  0x40000200000000431fefaf80001000020802e102210, 0x50000200000000431fefaf800000000000024102210,
  0x7ffbff9843e00380400067300980010144cca, 0x40000200000000431fefaf800000008008020101210,
  0x50000200000000431fefaf800000000000064100210, 0x7ffbdf9843e01380400066300980012144cca,
  0x50000200000000431fefaf800010000000026102210, 0x40000200000000431fffff800010028000002100210,
  0x7ffbdf9843e01380400067300980012144cca, 0x50000200000000431fefaf800010000000066100210,
  0x50000200000000431fefaf800000000000024100210, 0x40000200000000431fefaf800000000008020102210,
  0x40001200000000431fefaf800000000000020100a10, 0x7ffbff9843e01380400067320980012144cca,
  0x50000200000000431fefaf800010000000026100210, 0x40000200000000431fefaf800000000200020100210,
  0x40000200000000431fefaf800000000000060100210, 0x40001200000000431fefaf800010000000022100a10,
  0x40000200000000431fefaf800010000008022102210, 0x80000000000000050000000000100008000000,
  0x40000200000000431fefaf800010008000022101210, 0x40000200000000431fefaf800000000000020100210,
  0x40000200000000431fefaf800010000200022100210, 0x40000200000000431fefaf800010000000062100210,
  0x40000200000000431fefaf800010000000022100210, 0x40001200000000431fefff80000000820806c103a10,
  0x40001200000000031fffff80001002830806c103a10, 0x40001a00000000431fefff80001002830806e103a10,
  0x40001a00000000431fffff80001000830806c103a10, 0x40001200000000431fffff80000000820806e103a10,
  0x40000200000000001fefff80000000820802c103210, 0x40000000000000001fefff80000000820802c003010,
  0x40000200000000031fefff80000000820802c103210, 0x40001200000000431fffff80001002830806c103a10]

/-- Sets of tokens, 512 to 575. -/
def tokenSets512 : List Nat := [
  0x40000200000000001fe07180000000820802c103200, 0x40000200000000001fe7ff80000000820802c103210,
  0x400002000000000008000180000000020800c103200, 0x400002000000000008000100000000020800c103200,
  0x40000200000000001fe07f80000000820802c103200, 0x400002000000000008007180000000020800c103200,
  0x400002000000000008006180000000020800c103200, 0x400002000000000008004180000000020800c103200,
  0x40000200000000001fe1ff80000000820802c103200, 0x40000000000000001fe7ff80000000820802c003010,
  0x40000200000000000bc07180000000020800c103200, 0x400002000000000008000000000000020800c103200,
  0x40001200000000431fffaf80000000020806e102a10, 0x40001200000000431fffaf80001002020806e102a10,
  0x40001200000000431fffff80001002830806e103210, 0x40001200000000431fffaf80001002820806e103a10,
  0x50000200000000001fefff800000008000024103210, 0x50000000000000001fefff800000008000024003010,
  0x50000200000000431fefff800000008000064103210, 0x50000200000000031fefff800000008000024103210,
  0x200008003000, 0x50000200000000001fe071800000008000024103200,
  0x50000200000000001fe7ff800000008000024103210, 0x5000020000000000080001800000000000004103200,
  0x5000020000000000080001000000000000004103200, 0x50000200000000001fe07f800000008000024103200,
  0x5000020000000000080071800000000000004103200, 0x5000020000000000080061800000000000004103200,
  0x5000020000000000080041800000000000004103200, 0x50000200000000001fe1ff800000008000024103200,
  0x50000000000000001fe7ff800000008000024003010, 0x50000200000000000bc071800000000000004103200,
  0x5000020000000000080000000000000000004103200, 0x50000200000000001fe071800000008000064101200,
  0x50000200000000001fe7ff800000008000064101210, 0x5000020000000000080001800000000000044101200,
  0x5000020000000000080001000000000000044101200, 0x50000200000000001fe07f800000008000064101200,
  0x5000020000000000080071800000000000044101200, 0x5000020000000000080061800000000000044101200,
  0x5000020000000000080041800000000000044101200, 0x50000200000000001fe1ff800000008000064101200,
  0x50000000000000001fe7ff800000008000064001010, 0x50000200000000000bc071800000000000044101200,
  0x5000020000000000080000000000000000044101200, 0x50000200000000001fefff800000008000064101210,
  0x50000000000000001fefff800000008000064001010, 0x50000200000000031fefff800000008000064101210,
  0x50000200000000031fffff800010028100064103210, 0x50000a00000000431fefff800010028100066103210,
  0x50000a00000000431fffff800010008100064103210, 0x8003000,
  0x40001200000000001fe071800000008000020101a00, 0x40001200000000001fe7ff800000008000020101a10,
  0x4000120000000000080001800000000000000101a00, 0x4000120000000000080001000000000000000101a00,
  0x40001200000000001fe07f800000008000020101a00, 0x4000120000000000080071800000000000000101a00,
  0x4000120000000000080061800000000000000101a00, 0x4000120000000000080041800000000000000101a00,
  0x40001200000000001fe1ff800000008000020101a00, 0x40001000000000001fe7ff800000008000020001810,
  0x40001200000000000bc071800000000000000101a00, 0x4000120000000000080000000000000000000101a00]

/-- Sets of tokens, 576 to 639. -/
def tokenSets576 : List Nat := [
  0x40001200000000001fefff800000008000020101a10, 0x40001000000000001fefff800000008000020001810,
  0x40001200000000031fefff800000008000020101a10, 0x50000200000000431fffff800000008000066103210,
  0x50000200000000431fffff800010028100064103210, 0x50000200000000431fffaf800000000000066102210,
  0x50000200000000431fffaf800010028000066103210, 0x40000200000000431fffff800010028100066103210,
  0x50000200000000001fe071800000008000024100200, 0x50000200000000001fe7ff800000008000024100210,
  0x5000020000000000080001800000000000004100200, 0x5000020000000000080001000000000000004100200,
  0x50000200000000001fe07f800000008000024100200, 0x5000020000000000080071800000000000004100200,
  0x5000020000000000080061800000000000004100200, 0x5000020000000000080041800000000000004100200,
  0x50000200000000001fe1ff800000008000024100200, 0x50000000000000001fe7ff800000008000024000010,
  0x50000200000000000bc071800000000000004100200, 0x5000020000000000080000000000000000004100200,
  0x50000200000000001fefff800000008000024100210, 0x50000000000000001fefff800000008000024000010,
  0x50000200000000031fefff800000008000024100210, 0x40000200000000001fe071800000008008020102200,
  0x40000200000000001fe7ff800000008008020102210, 0x4000020000000000080001800000000008000102200,
  0x4000020000000000080001000000000008000102200, 0x40000200000000001fe07f800000008008020102200,
  0x4000020000000000080071800000000008000102200, 0x4000020000000000080061800000000008000102200,
  0x4000020000000000080041800000000008000102200, 0x40000200000000001fe1ff800000008008020102200,
  0x40000000000000001fe7ff800000008008020002010, 0x40000200000000000bc071800000000008000102200,
  0x4000020000000000080000000000000008000102200, 0x40000200000000001fefff800000008008020102210,
  0x40000000000000001fefff800000008008020002010, 0x40000200000000031fefff800000008008020102210,
  0x40000200000000431fffaf800000008008022101210, 0x40000200000000001fe071800000008200020100200,
  0x40000200000000001fe7ff800000008200020100210, 0x4000020000000000080001800000000200000100200,
  0x4000020000000000080001000000000200000100200, 0x40000200000000001fe07f800000008200020100200,
  0x4000020000000000080071800000000200000100200, 0x4000020000000000080061800000000200000100200,
  0x4000020000000000080041800000000200000100200, 0x40000200000000001fe1ff800000008200020100200,
  0x40000000000000001fe7ff800000008200020000010, 0x40000200000000000bc071800000000200000100200,
  0x4000020000000000080000000000000200000100200, 0x40000200000000001fefff800000008200020100210,
  0x40000000000000001fefff800000008200020000010, 0x40000200000000031fefff800000008200020100210,
  0x40000200000000001fe071800000008000060100200, 0x40000200000000001fe7ff800000008000060100210,
  0x4000020000000000080001800000000000040100200, 0x4000020000000000080001000000000000040100200,
  0x40000200000000001fe07f800000008000060100200, 0x4000020000000000080071800000000000040100200,
  0x4000020000000000080061800000000000040100200, 0x4000020000000000080041800000000000040100200,
  0x40000200000000001fe1ff800000008000060100200, 0x40000000000000001fe7ff800000008000060000010]

/-- Sets of tokens, 640 to 685. -/
def tokenSets640 : List Nat := [
  0x40000200000000000bc071800000000000040100200, 0x4000020000000000080000000000000000040100200,
  0x40000200000000001fefff800000008000060100210, 0x40000000000000001fefff800000008000060000010,
  0x40000200000000031fefff800000008000060100210, 0x40000200000000001fe071800000008000020100200,
  0x40000200000000001fe7ff800000008000020100210, 0x4000020000000000080001800000000000000100200,
  0x4000020000000000080001000000000000000100200, 0x40000200000000001fe07f800000008000020100200,
  0x4000020000000000080071800000000000000100200, 0x4000020000000000080061800000000000000100200,
  0x4000020000000000080041800000000000000100200, 0x40000200000000001fe1ff800000008000020100200,
  0x40000000000000001fe7ff800000008000020000010, 0x40000200000000000bc071800000000000000100200,
  0x4000020000000000080000000000000000000100200, 0x40000200000000001fefff800000008000020100210,
  0x40000000000000001fefff800000008000020000010, 0x40000200000000031fefff800000008000020100210,
  0x1fffbe0180000100000002332010000204045a, 0x4000000000000000008008208008003b00, 0x90000000000802,
  0x80000000000000050000000000100000001100, 0x50000008008308008003900,
  0x1800000004000000000000000000000008004003000, 0x1800000000000000000050000000000100004003900,
  0x8000200000000000000001000000000000008, 0x88000000000000,
  0x11000000000000000000050000000000100004001800, 0x4000000001000000000000008002003100,
  0x4000000000050000000000300000001000, 0x8000000000000000000001000000000000008,
  0x4000000001000000000000000002003100, 0x98000000000902, 0x8000000001100, 0x8000000001800,
  0x50000000000300000000200, 0x208000003000, 0x200000001100, 0x200008000000,
  0x20000000000000d0000000000000000000000000000, 0x8000000000800, 0xb000,
  0x1000000000020000002000000, 0x1400000000000]

/-- Sets of symbols that are no tokens, 0 to 63. -/
def phraseSets000 : List Nat := [
  0x8000000000000000000000000000000000000000000000, 0x40000000000000000000000000,
  0x2000000000000000000, 0x80, 0x4000000000000000000000000,
  0x10000000000000000000000000000000000000000000000000, 0x2000000011000000000000, 0x400000000000000,
  0x100000000000, 0x200000000000, 0x40000000000000, 0x400000000000000000000,
  0x1b00010520008800000000000, 0x20000000180000000080000000000, 0x80e00000078a61004120400000000000,
  0x800000000000000000000000000000000000000000000, 0x1000000000000000000000,
  0x6000100000000000000000000000, 0x8000000000000000000, 0x2200000000000000000000000,
  0x100000000000000000000000, 0x800000000000000, 0x400000000000000000000000000000000,
  0x4000000000000000000000000000000000000, 0x8000000000000000000000000000000000000,
  0x40000000000000000000000000000000000000, 0x2000000000000000000000000000000000000000,
  0x40000000000000000000000000000000000000000000, 0x2000000000000000000000000000000000000,
  0x4800000011000000000000000000000000000000000000000,
  0x36017ae068000000000000000000000000000000000000000,
  0x200000000000000000000000000000000000000000000000000, 0x100000,
  0x400000000000000000000000000000000000000000000000000, 0x40000000000000000000000000000000000,
  0x80000000000000000000000, 0x12a70100000000000a40000000000060000,
  0x80000000000000000000000000000000, 0x20000000000000000000000000,
  0x20000000000000000000000000000000000, 0xe00000078a61004120400000000000,
  0x2000000000000000000000000, 0x200000000000000000000000000, 0x80000000000, 0x3ffbd10142,
  0x20000000180000000000000000000, 0x100000000000000000000000000,
  0x800000000000000000000000000000000000000000000000000, 0x100000000000000000000000000000000,
  0x8000000000000000000000000000000, 0x80000000000000000, 0x2000000000000000000000000000000,
  0x1000000000000000, 0x8000, 0x20000000000000000000000000000000000000000000000000000,
  0x186000000000000000040000000000000000000000000002, 0x8200000000000000,
  0x800000000000000000000000000000000000000000000000000000, 0x1a00010520008800000000000, 0x40,
  0x400000000000000000000000000000000000000000000,
  0x1000000000000000000000000000000000000000000000000000, 0x1200000000000004000000000000,
  0x8000000000000000000000000000000000000000000008000]

/-- Sets of symbols that are no tokens, 64 to 127. -/
def phraseSets064 : List Nat := [
  0xc00004000000000000000000000, 0x2000000000000, 0x4000000000000000000000,
  0xf80000000000000000000000000000000000000,
  0x20000000000000000000000000000000000000000000000000000000,
  0x180000000000000004000000000000000000, 0x200000000000000000000000000000000000,
  0x200000000000000000000000000000000000000000, 0x400000000000000000000000000000000000000000,
  0x800000000000000000000000000000000000000000, 0x1000000000000000000000000000000000000000000,
  0x10000000000000004000000000000000000000000000000000000000, 0x80000,
  0x100022000000000000000000000000000000000000, 0x36013ae068000000000000000000000000000000000000000,
  0x2000000000000000000000000000000000000000000000000000000, 0x8,
  0x40000000000000000000000000000000000000000000000000000,
  0x80000000000000000000000000000000000000000000000000000,
  0x80010000000000000000000000000000000000000, 0x100000000000000000000020,
  0x200000000000000000000000, 0x4, 0x10000000000000000000000000000,
  0x100000000000000000000000000000400000000000000000000000, 0x400000000000000000000000000,
  0x200000000000000000000000000080000000000000000000000000,
  0x100000000000000000088000000000000000000000000000, 0x40000000000000000000000000000,
  0x8000000000000000000000000000000000, 0x80000000000000000000000000000000000000000000000000000000,
  0x80000000000000000000000000000000000000000, 0x400,
  0x4000000000000000000000000000000000004300000000000000,
  0x10000000000000000000000000000000000000000000000,
  0x8000000000000000000000000000000000000000000000000000000,
  0x80000000000000000000000000000000000000000000000000, 0x2000000000000000,
  0x1000000000000000000000000000000000000000000000,
  0x400000000000000000000000000000000000000000000000000000, 0x1000000000,
  0x20000000000000000000000000000000000000000000000, 0x400000000000000000000000000000000000,
  0x800000000000000000000000000000000000, 0x1000000000000000000000000000000000000,
  0x4000000000000000000000000000000000000000000000000000000, 0x4000, 0x4000000,
  0x6000000000000000000000000000, 0x2000000000000000000000000000000000000000000000000000,
  0x40000000000000000000000000000000000000000000000000000000,
  0x10000000000000000000000000000000000000000000, 0x1800,
  0x40000000000000000000000000000000000000000000000, 0x2000, 0x10,
  0x1000000000000000000000000000000000, 0x80000000000000, 0x4000000000000000000000000000000000,
  0x1000060000, 0x200000, 0x10000000000000000000000000000000000000, 0x200,
  0x1000000000000000000000000000000]

/-- Sets of symbols that are no tokens, 128 to 149. -/
def phraseSets128 : List Nat := [
  0x400000000000000000000100000000000000000000000, 0x3c00000000000000000000000000000000000,
  0x100000000000000000000000000000000000000018000000000,
  0x1000000000000000000000000000000000000000000000000000000,
  0x8000000000000000000000000000000000000000000000000000,
  0x10000000000000000000000000000000000000000000000000000, 0x8000000000000000000000000,
  0x10000000000000000000000000, 0x20000000000000000000000000000000000000000000000000,
  0x40000000000000000000000000000000000000000000000000,
  0x4800000001000000000000000000000000000000000000000, 0x10000000000000000000000000000000000000000,
  0x84000000000000000000000, 0x4000000000000000000000000000000, 0x40000000000, 0x14300000000000000,
  0x40000000000000000000000000000000000000000, 0x200000000000000000000000000000000, 0x1,
  0x20000000000, 0x4000000000, 0x800000000000]

/-- The sets of tokens. -/
def tokenSets : Chunked Nat :=
  Chunked.ofLists [
    tokenSets000, tokenSets064, tokenSets128, tokenSets192, tokenSets256, tokenSets320,
    tokenSets384, tokenSets448, tokenSets512, tokenSets576, tokenSets640]

/-- The sets of other symbols. -/
def phraseSets : Chunked Nat := Chunked.ofLists [phraseSets000, phraseSets064, phraseSets128]

end JsxDetect.Automaton
