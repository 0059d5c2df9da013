import JsxDetect.Automaton.Packed

/-!
# Parsing automaton: states 3072 to 3583

Packed rows; see `PackedRow` for the layout.
-/

namespace JsxDetect.Automaton

/-- States 3072 to 3135. -/
def states3072 : List PackedRow := [
  ⟨1, 5, 0x80000082506f, 0x0⟩,
  ⟨1, 5, 0x800000830c6f, 0x0⟩,
  ⟨1, 5, 0x80000081586f, 0x0⟩,
  ⟨1, 5, 0x80000081586f, 0x0⟩,
  ⟨1, 5, 0x80000082546f, 0x0⟩,
  ⟨1, 5, 0x80000083106f, 0x0⟩,
  ⟨1, 5, 0x112c3c8000000fcc150fc8128234e9, 0x0⟩,
  ⟨1, 5, 0x80000081046f, 0x0⟩,
  ⟨1, 5, 0x112c3c8000000fcc150fc81280f4e9, 0x0⟩,
  ⟨1, 5, 0x112c3c8000000fcc150fc81280f4e9, 0x0⟩,
  ⟨11, 6, 0x80000011080180246d, 0x33640f⟩,
  ⟨9, 6, 0x800000820cfd, 0x0⟩,
  ⟨9, 6, 0x8000004e602752f81d80346d, 0x0⟩,
  ⟨9, 6, 0x8000004e6c2753041d80346d, 0x0⟩,
  ⟨9, 6, 0x8000008210fd, 0x0⟩,
  ⟨9, 6, 0x8000008094fd, 0x0⟩,
  ⟨9, 6, 0x8000008094fd, 0x0⟩,
  ⟨9, 6, 0x8000008094fd, 0x0⟩,
  ⟨1, 6, 0x8000008040fe, 0x0⟩,
  ⟨1, 6, 0x8000008040fe, 0x0⟩,
  ⟨1, 6, 0x8000008040fe, 0x0⟩,
  ⟨1, 6, 0x8000008040fe, 0x0⟩,
  ⟨1, 6, 0x8000008040fe, 0x0⟩,
  ⟨1, 6, 0x8000008040fe, 0x0⟩,
  ⟨9, 6, 0x8000008214fd, 0x0⟩,
  ⟨11, 6, 0x80000080981d810da2, 0x0⟩,
  ⟨11, 6, 0x80000080981d810da2, 0x0⟩,
  ⟨16, 2, 0x80000038780141ecd03070cf045009, 0x18c065307407307061⟩,
  ⟨16, 2, 0x80000038780141ecd030a8cf045009, 0x19106530740730a861⟩,
  ⟨16, 2, 0x8000003878014258d03078cf045009, 0x416c65307407307861⟩,
  ⟨16, 2, 0x8000003878014258d030a8cf045009, 0x417c6530740730a861⟩,
  ⟨16, 2, 0x800000387801426cd03080cf045009, 0x41a465307407308061⟩,
  ⟨16, 2, 0x800000387801426cd030a8cf045009, 0x41b46530740730a861⟩,
  ⟨8, 2, 0x10c48280000010f40154d01d8024de, 0x2b640f⟩,
  ⟨11, 2, 0xed86e05183c800000459c0115d409312407, 0x34f80053e83145a03320ac264f1832⟩,
  ⟨1, 2, 0x80000044d40544d00445b43454202a3ad92c45bc07, 0x45bc5445b877⟩,
  ⟨11, 2, 0xed86e05183c800000459c0115d409313c07, 0x34f80053e83145a03320ac264f1832⟩,
  ⟨15, 2, 0x8000002108743b0c554f8824046809353875, 0x31443938a4343b1038⟩,
  ⟨11, 2, 0xed86e05183c800000459c0115d409316007, 0x353c0053e83145a0332134264fb032⟩,
  ⟨1, 2, 0x80000044d40544d004824067464c3646484c45c807, 0x4fcc5754a454⟩,
  ⟨11, 2, 0xed86e05183c800000459c0115d409317407, 0x353c0053e83145a0332134264fb032⟩,
  ⟨11, 2, 0xed86e05183c800000459c0115ec09318007, 0x35500053e83145a0332604264ffc32⟩,
  ⟨16, 2, 0x800000888001887cd08878cf887409, 0x30740730a861⟩,
  ⟨1, 2, 0x8000008050b750141d81914b, 0x0⟩,
  ⟨1, 2, 0x80000044d40544d004350c3554e834309c4c45c807, 0x4f4057506076543c54⟩,
  ⟨1, 5, 0x8000000eec240554d14f5c2d828c0d073c08, 0x3af01c3bb010⟩,
  ⟨1, 5, 0x8544578000000eec240554d14f5c2d828cdf06a808, 0x3af01c45ec10⟩,
  ⟨1, 2, 0x80000044d40544d004350c35550c34309c4c45c807, 0x4f4057506076543c54⟩,
  ⟨1, 2, 0x385c0680000004100280b09c, 0x211813⟩,
  ⟨8, 5, 0x800000800c7181806706c008, 0x0⟩,
  ⟨1, 6, 0xf948280000080246d, 0x0⟩,
  ⟨1, 5, 0x112c3c8000000fcc150fc81281912a, 0x0⟩,
  ⟨1, 6, 0xf988280000080246d, 0x0⟩,
  ⟨1, 6, 0xf948280000081046d, 0x0⟩,
  ⟨1, 5, 0x8000000e70248418ff, 0x39904d⟩,
  ⟨1, 5, 0x8000000e70248290ff, 0x399c4d⟩,
  ⟨1, 6, 0x8000008061a3, 0x0⟩,
  ⟨1, 6, 0x80000052f01d80506d, 0x0⟩,
  ⟨1, 6, 0x80000082e1a3, 0x0⟩,
  ⟨1, 6, 0x80000080d5a4, 0x0⟩,
  ⟨1, 6, 0x80000080d5a4, 0x0⟩,
  ⟨11, 2, 0xed86e05183c800000459c0115ec09338407, 0x37c00053e83145a03318a426517c32⟩,
  ⟨15, 2, 0x80000018e8743b0c554f8824046809353875, 0x33883938a4343b1038⟩,
  ⟨11, 2, 0xed86e05183c800000459c0115ec0933a807, 0x37d40053e83145a03319182651c032⟩]

/-- States 3136 to 3199. -/
def states3136 : List PackedRow := [
  ⟨15, 2, 0x8000004170743b0c554f8824046809353875, 0x33c43938a4343b1038⟩,
  ⟨15, 2, 0x80000041a8743b0c554f8824046809353875, 0x33ec3938a4343b1038⟩,
  ⟨11, 2, 0xed86e05183c800000459c0115d409337807, 0x34f80053e83145a03320ac264f1832⟩,
  ⟨11, 2, 0xed86e05183c800000459c0115d40933a007, 0x353c0053e83145a0332134264fb032⟩,
  ⟨1, 2, 0x80000050101d0428028050de, 0x2b2c29⟩,
  ⟨8, 2, 0x10808280000010f40154d01d8024b9, 0x2b640f⟩,
  ⟨11, 2, 0xed86e05183c800000459c0115d40933bc07, 0x34f80053e83145a03320ac264f1832⟩,
  ⟨11, 2, 0xed86e05183c800000459c0115d40933d807, 0x353c0053e83145a0332134264fb032⟩,
  ⟨14, 2, 0x385c068000000edc0145a8274f281d041002, 0x43240f20b8134f2c12⟩,
  ⟨11, 2, 0xed86e05183c800000459c0115f809, 0x35300053e83145a03303b4264f7432⟩,
  ⟨15, 2, 0x8000002108743b0c55046809353875, 0x31443938a4343b1038⟩,
  ⟨8, 2, 0x8000000edc01547c1d04200282da9b, 0x4f900f133829⟩,
  ⟨11, 2, 0xed86e05183c800000459c01160409, 0x35400053e83145a0330b74264fc032⟩,
  ⟨1, 2, 0x800000812512, 0x0⟩,
  ⟨8, 2, 0x800000800c6c1d6c3416502a06c008, 0x45d82145d41f⟩,
  ⟨11, 2, 0xed86e05183c800000459c0115d409, 0x35480053e83145a033214c264fe832⟩,
  ⟨1, 2, 0x800000854912, 0x0⟩,
  ⟨15, 2, 0x800000219c743b6c55046809353875, 0x31943938a4343b1038⟩,
  ⟨15, 2, 0x80000021a0743b7455046809353875, 0x31983938a4343b1038⟩,
  ⟨15, 2, 0x80000021a4743b7855046809353875, 0x319c3938a4343b1038⟩,
  ⟨15, 2, 0x80000021a8743b7c55046809353875, 0x31943938a4343b1038⟩,
  ⟨11, 2, 0xed86e05183c800000459c01160c09, 0x35580053e83145a0330cbc26502c32⟩,
  ⟨14, 2, 0x385c068000000edc0145a82750341d041002, 0x43240f1dc82920b8554f2c12⟩,
  ⟨1, 2, 0xf203c8000000f1c150f181281914b, 0x0⟩,
  ⟨11, 2, 0xed86e05183c800000459c0115f809, 0x35640053e83145a03303cc26503832⟩,
  ⟨1, 2, 0x80000044d40544d004469c343ad92c45bc07, 0x45bc54504077⟩,
  ⟨11, 2, 0xed86e05183c800000459c01160409, 0x35680053e83145a0330b8c26505032⟩,
  ⟨1, 2, 0x80000083c512, 0x0⟩,
  ⟨1, 2, 0x80000083c512, 0x0⟩,
  ⟨11, 2, 0xed86e05183c800000459c0115d409, 0x35740053e83145a03321cc26508432⟩,
  ⟨1, 5, 0x8000000eec240554d1828c0d073c08, 0x3af01c3bb010⟩,
  ⟨1, 5, 0x8544578000000eec240554d1828cdf06a808, 0x3af01c45ec10⟩,
  ⟨11, 2, 0xed86e05183c800000459c0115ec09, 0x35780053e83145a033261826509032⟩,
  ⟨1, 2, 0x800000854d12, 0x0⟩,
  ⟨1, 5, 0x8000000eec24357d1381dc0d06a808, 0x3bc81c46c010⟩,
  ⟨11, 2, 0x80000039c40143d80543d404046809, 0x307c073be88f⟩,
  ⟨11, 2, 0x80000039c40143d80543d404046809, 0x307c073bec8f⟩,
  ⟨15, 2, 0x800000888e9c888809888475, 0x31943938a4343b1038⟩,
  ⟨15, 2, 0x8000002200743bf055046809353875, 0x31943938a4343b1038⟩,
  ⟨15, 2, 0x8000002204743bf455046809353875, 0x31943938a4343b1038⟩,
  ⟨14, 2, 0x385c0680000010f40145a8274f281d041002, 0x30c00f1df42920b8554f2c12⟩,
  ⟨11, 2, 0xed86e05183c800000459c01160c09, 0x35900053e83145a0330d442650d032⟩,
  ⟨1, 2, 0x80000044d40544d00446f8343ad92c45bc07, 0x45bc54504077⟩,
  ⟨1, 5, 0x8000000eec24359513808c0d06a808, 0x3c141c46fc10⟩,
  ⟨1, 5, 0x35a4238000000eec2435a02d808c0d06a808, 0x3c281c471c10⟩,
  ⟨1, 5, 0x35ac238000000eec2435a82d808c0d06a808, 0x3c2c1c472010⟩,
  ⟨1, 5, 0x35b4238000000eec2435b02d808c0d06a808, 0x3c301c472410⟩,
  ⟨1, 2, 0x80000044d40544d004350c35309c4c45c807, 0x4f4057506076543c54⟩,
  ⟨1, 5, 0x8000000eec2435cd1380280d06a808, 0x3c781c475c10⟩,
  ⟨1, 5, 0x35dc238000000eec2435d82d80280d06a808, 0x3c941c477c10⟩,
  ⟨1, 5, 0x35e4238000000eec2435e02d80280d06a808, 0x3ca01c478c10⟩,
  ⟨1, 5, 0x35ec238000000eec2435e82d80280d06a808, 0x3ca41c479010⟩,
  ⟨1, 5, 0x35f4238000000eec2435f02d80280d06a808, 0x3ca81c479410⟩,
  ⟨1, 5, 0x35fc238000000eec2435f82d80280d06a808, 0x3cac1c479810⟩,
  ⟨1, 5, 0x3604238000000eec2436002d80280d06a808, 0x3cb81c47a810⟩,
  ⟨1, 5, 0x360c238000000eec2436082d80280d06a808, 0x3cbc1c47ac10⟩,
  ⟨1, 5, 0x3614238000000eec2436102d80280d06a808, 0x3cc01c47b010⟩,
  ⟨1, 5, 0x3624238000000eec2436202d80280d06a808, 0x3cdc1c47dc10⟩,
  ⟨1, 5, 0x362c238000000eec2436282d80280d06a808, 0x3ce01c47e010⟩,
  ⟨1, 5, 0x3634238000000eec2436302d80280d06a808, 0x3ce41c47e410⟩,
  ⟨1, 5, 0x8000000eec2436451380180d06a808, 0x3d501c481410⟩,
  ⟨1, 5, 0x3650238000000eec24364c2d80180d06a808, 0x3d741c485810⟩,
  ⟨1, 5, 0x3658238000000eec2436542d80180d06a808, 0x3d801c486810⟩,
  ⟨1, 5, 0x3660238000000eec24365c2d80180d06a808, 0x3d841c486c10⟩]

/-- States 3200 to 3263. -/
def states3200 : List PackedRow := [
  ⟨1, 5, 0x3668238000000eec2436642d80180d06a808, 0x3d901c487c10⟩,
  ⟨1, 5, 0x3670238000000eec24366c2d80180d06a808, 0x3da41c48a010⟩,
  ⟨1, 5, 0x3678238000000eec2436742d80180d06a808, 0x3da81c48a410⟩,
  ⟨1, 5, 0x3680238000000eec24367c2d80180d06a808, 0x3dac1c48a810⟩,
  ⟨1, 5, 0x3688238000000eec2436842d80180d06a808, 0x3db01c48ac10⟩,
  ⟨1, 5, 0x3690238000000eec24368c2d80180d06a808, 0x3dbc1c48bc10⟩,
  ⟨1, 5, 0x3698238000000eec2436942d80180d06a808, 0x3dc01c48c010⟩,
  ⟨1, 5, 0x36a8238000000eec2436a42d80180d06a808, 0x3de41c490010⟩,
  ⟨1, 5, 0x36b0238000000eec2436ac2d80180d06a808, 0x3df01c491010⟩,
  ⟨1, 5, 0x36b8238000000eec2436b42d80180d06a808, 0x3df41c491410⟩,
  ⟨1, 5, 0x36c0238000000eec2436bc2d80180d06a808, 0x3df81c491810⟩,
  ⟨1, 5, 0x36c8238000000eec2436c42d80180d06a808, 0x3dfc1c491c10⟩,
  ⟨1, 5, 0x36d0238000000eec2436cc2d80180d06a808, 0x3e081c492c10⟩,
  ⟨1, 5, 0x36d8238000000eec2436d42d80180d06a808, 0x3e0c1c493010⟩,
  ⟨1, 5, 0x8000000eec2436e11380100d06a808, 0x3e781c498410⟩,
  ⟨1, 5, 0x36e8238000000eec2436e42d80100d06a808, 0x3e8c1c49c410⟩,
  ⟨1, 5, 0x36f0238000000eec2436ec2d80100d06a808, 0x3ea81c4a0410⟩,
  ⟨1, 5, 0x36f8238000000eec2436f42d80100d06a808, 0x3eb41c4a1410⟩,
  ⟨1, 5, 0x3700238000000eec2436fc2d80100d06a808, 0x3eb81c4a1810⟩,
  ⟨1, 5, 0x3708238000000eec2437042d80100d06a808, 0x3ec41c4a2810⟩,
  ⟨1, 5, 0x3710238000000eec24370c2d80100d06a808, 0x3ed81c4a4c10⟩,
  ⟨1, 5, 0x371c238000000eec2437182d80100d06a808, 0x3f081c4ab010⟩,
  ⟨1, 5, 0x3724238000000eec2437202d80100d06a808, 0x3f141c4ac010⟩,
  ⟨1, 5, 0x372c238000000eec2437282d80100d06a808, 0x3f181c4ac410⟩,
  ⟨1, 5, 0x3734238000000eec2437302d80100d06a808, 0x3f241c4ad410⟩,
  ⟨1, 5, 0x373c238000000eec2437382d80100d06a808, 0x3f381c4af810⟩,
  ⟨1, 5, 0x3744238000000eec2437402d80140d06a808, 0x3fa01c4b9410⟩,
  ⟨1, 5, 0x374c238000000eec2437482d80140d06a808, 0x3fd41c4c2810⟩,
  ⟨1, 6, 0x8000000e64248418c7, 0x403c4d⟩,
  ⟨1, 6, 0x8000000e64248290c7, 0x40704d⟩,
  ⟨8, 2, 0x800000800c6c1ab83416502a06c008, 0x45d8214d701f⟩,
  ⟨1, 6, 0x80000081046d, 0x0⟩,
  ⟨1, 6, 0x11343c800000103c1510381280f4ea, 0x0⟩,
  ⟨1, 6, 0x11343c800000103c1510381280f4ea, 0x0⟩,
  ⟨8, 2, 0x800000800c6c19bc3416502a06c008, 0x45d8214d701f⟩,
  ⟨1, 6, 0x8000008050b752f01d8190c7, 0x0⟩,
  ⟨8, 2, 0x800000800c6c1c643416502a06c008, 0x45d8214d701f⟩,
  ⟨8, 2, 0x800000800c6c25303416502a06c008, 0x45d8214d701f⟩,
  ⟨1, 6, 0x80000082e46d, 0x0⟩,
  ⟨1, 6, 0x80000080246d, 0x0⟩,
  ⟨1, 6, 0x80000080586d, 0x0⟩,
  ⟨1, 6, 0x80000080246d, 0x0⟩,
  ⟨1, 6, 0x80000080506d, 0x0⟩,
  ⟨1, 6, 0x8000000ebc038051a5, 0x0⟩,
  ⟨1, 6, 0x80000080586d, 0x0⟩,
  ⟨1, 6, 0x80000080c46d, 0x0⟩,
  ⟨1, 6, 0x80000080346d, 0x0⟩,
  ⟨1, 6, 0x80000080e46d, 0x0⟩,
  ⟨1, 6, 0x80000082e86d, 0x0⟩,
  ⟨1, 6, 0x8000001038128221a6, 0x0⟩,
  ⟨1, 6, 0x800000814c6d, 0x0⟩,
  ⟨1, 6, 0x80000080f86d, 0x0⟩,
  ⟨1, 6, 0x11343c800000103c151038128224ea, 0x0⟩,
  ⟨1, 6, 0x8000008050b70ebc0382ecc7, 0x0⟩,
  ⟨1, 6, 0x10443c800000822a9d, 0x0⟩,
  ⟨1, 6, 0x8000000ebc0382f1a5, 0x0⟩,
  ⟨1, 6, 0x80000082186d, 0x0⟩,
  ⟨1, 6, 0x80000082486d, 0x0⟩,
  ⟨1, 6, 0x80000080b06d, 0x0⟩,
  ⟨1, 6, 0x80000080b06d, 0x0⟩,
  ⟨1, 6, 0x80000080b06d, 0x0⟩,
  ⟨1, 6, 0x80000082f46d, 0x0⟩,
  ⟨1, 6, 0x80000081506d, 0x0⟩,
  ⟨1, 6, 0x80000081506d, 0x0⟩]

/-- States 3264 to 3327. -/
def states3264 : List PackedRow := [
  ⟨1, 6, 0x80000082f86d, 0x0⟩,
  ⟨1, 6, 0x80000081106d, 0x0⟩,
  ⟨1, 6, 0x11343c800000103c151038128110ea, 0x0⟩,
  ⟨1, 6, 0x80000082fc6d, 0x0⟩,
  ⟨1, 6, 0x800000103812822da6, 0x0⟩,
  ⟨1, 6, 0x80000083006d, 0x0⟩,
  ⟨1, 6, 0x80000080f06d, 0x0⟩,
  ⟨1, 6, 0x80000080f06d, 0x0⟩,
  ⟨1, 6, 0x800000824c6d, 0x0⟩,
  ⟨1, 6, 0x80000081546d, 0x0⟩,
  ⟨1, 6, 0x80000081546d, 0x0⟩,
  ⟨1, 6, 0x80000083046d, 0x0⟩,
  ⟨1, 6, 0x11343c800000103c151038128230ea, 0x0⟩,
  ⟨1, 6, 0x80000083086d, 0x0⟩,
  ⟨1, 6, 0x80000081146d, 0x0⟩,
  ⟨1, 6, 0x11343c800000103c151038128114ea, 0x0⟩,
  ⟨1, 6, 0x800000821c6d, 0x0⟩,
  ⟨1, 6, 0x80000082506d, 0x0⟩,
  ⟨1, 6, 0x800000830c6d, 0x0⟩,
  ⟨1, 6, 0x80000081586d, 0x0⟩,
  ⟨1, 6, 0x80000081586d, 0x0⟩,
  ⟨1, 6, 0x80000082546d, 0x0⟩,
  ⟨1, 6, 0x80000083106d, 0x0⟩,
  ⟨1, 6, 0x11343c800000103c151038128234ea, 0x0⟩,
  ⟨1, 6, 0x80000081086d, 0x0⟩,
  ⟨1, 6, 0x80000081086d, 0x0⟩,
  ⟨1, 6, 0x80000082006d, 0x0⟩,
  ⟨8, 2, 0x800000800c6c26683416502a06c008, 0x45d8214d701f⟩,
  ⟨1, 6, 0x80000082046d, 0x0⟩,
  ⟨14, 2, 0x39b4068000000edc0145a827518c1d041c02, 0x44480f18b013519012⟩,
  ⟨11, 2, 0xed86e05183c800000459c0115d409, 0x37d00053e83145a03322802651a032⟩,
  ⟨15, 2, 0x80000018e8743b0c55046809353875, 0x33883938a4343b1038⟩,
  ⟨11, 2, 0xed86e05183c800000459c01160409, 0x37d80053e83145a03340882651cc32⟩,
  ⟨11, 2, 0xed86e05183c800000459c0115ec09, 0x37dc0053e83145a03319242651d832⟩,
  ⟨15, 2, 0x8000001950743b6c55046809353875, 0x31943938a4343b1038⟩,
  ⟨15, 2, 0x8000001954743b7455046809353875, 0x33ac3938a4343b1038⟩,
  ⟨15, 2, 0x8000001958743b7855046809353875, 0x33b03938a4343b1038⟩,
  ⟨15, 2, 0x800000195c743b7c55046809353875, 0x31943938a4343b1038⟩,
  ⟨11, 2, 0xed86e05183c800000459c01160409, 0x37e00053e83145a03340a82651f832⟩,
  ⟨14, 2, 0x39b4068000000edc0145a82751fc1d041c02, 0x44480f17282918b055519012⟩,
  ⟨11, 2, 0xed86e05183c800000459c0115d409, 0x37e80053e83145a033229426520032⟩,
  ⟨11, 2, 0xed86e05183c800000459c01160409, 0x37ec0053e83145a03340d426520c32⟩,
  ⟨11, 2, 0xed86e05183c800000459c0115ec09, 0x37f00053e83145a033198826522432⟩,
  ⟨15, 2, 0x8000001990743bf055046809353875, 0x31943938a4343b1038⟩,
  ⟨15, 2, 0x8000001994743bf455046809353875, 0x31943938a4343b1038⟩,
  ⟨14, 2, 0x39b40680000010f40145a827518c1d041c02, 0x2d100f17302918b055519012⟩,
  ⟨11, 2, 0xed86e05183c800000459c01160409, 0x37f40053e83145a033411026524432⟩,
  ⟨11, 2, 0xed86e05183c800000459c0115d409, 0x37f80053e83145a03322cc26528032⟩,
  ⟨15, 2, 0x8000004170743b0c55046809353875, 0x33c43938a4343b1038⟩,
  ⟨15, 2, 0x8000004180743b6c55046809353875, 0x31943938a4343b1038⟩,
  ⟨15, 2, 0x8000004184743b7455046809353875, 0x33dc3938a4343b1038⟩,
  ⟨15, 2, 0x8000004188743b7855046809353875, 0x33e03938a4343b1038⟩,
  ⟨15, 2, 0x800000418c743b7c55046809353875, 0x31943938a4343b1038⟩,
  ⟨14, 2, 0x39b4068000000edc0145a82751fc1d041c02, 0x44480f1c542918b055519012⟩,
  ⟨11, 2, 0xed86e05183c800000459c0115d409, 0x37fc0053e83145a03322f02652a432⟩,
  ⟨15, 2, 0x8000004198743bf055046809353875, 0x31943938a4343b1038⟩,
  ⟨15, 2, 0x800000419c743bf455046809353875, 0x31943938a4343b1038⟩,
  ⟨14, 2, 0x39b40680000010f40145a827518c1d041c02, 0x2d100f1c5c2918b055519012⟩,
  ⟨15, 2, 0x80000041a8743b0c55046809353875, 0x33ec3938a4343b1038⟩,
  ⟨15, 2, 0x80000041b8743b6c55046809353875, 0x31943938a4343b1038⟩,
  ⟨15, 2, 0x80000041bc743b7455046809353875, 0x34003938a4343b1038⟩,
  ⟨15, 2, 0x80000041c0743b7855046809353875, 0x34043938a4343b1038⟩,
  ⟨15, 2, 0x80000041c4743b7c55046809353875, 0x31943938a4343b1038⟩,
  ⟨14, 2, 0x39b4068000000edc0145a82752a01d041c02, 0x44480f1c542918b055519012⟩]

/-- States 3328 to 3391. -/
def states3328 : List PackedRow := [
  ⟨15, 2, 0x80000041d0743bf055046809353875, 0x31943938a4343b1038⟩,
  ⟨15, 2, 0x80000041d4743bf455046809353875, 0x31943938a4343b1038⟩,
  ⟨14, 2, 0x385c0680000010f40145a8274f281d041002, 0x30c00f25282920b8554f2c12⟩,
  ⟨14, 2, 0x385c068000000edc0145a82752f41d041002, 0x43240f25242920b8554f2c12⟩,
  ⟨14, 2, 0x39b40680000010f40145a827518c1d041c02, 0x2d100f26842918b055519012⟩,
  ⟨14, 2, 0x39b4068000000edc0145a82753081d041c02, 0x44480f267c2918b055519012⟩,
  ⟨14, 2, 0x39b40680000010fc0145a827518c1d041002, 0x2d8c0f1f802918b055519012⟩,
  ⟨14, 2, 0x39b4068000000edc0145a827530c1d041002, 0x44480f1f7c2918b055519012⟩,
  ⟨14, 2, 0x39b4068000000edc0145a82752d41d041c02, 0x44480f17282918b055519012⟩,
  ⟨1, 2, 0x80000050101d0430028050b9, 0x2b2c29⟩,
  ⟨1, 2, 0x53dc52800000037c031d6009343007, 0x34e80643144c⟩,
  ⟨10, 2, 0x80000020b0743094ca3ac8555404282aac07, 0x45a4623128342e4c15⟩,
  ⟨1, 5, 0x8000000eec244f5c2d828c0d06a808, 0x3af01c45ec10⟩,
  ⟨1, 2, 0x2ac02f80000046180c2a3c07, 0x2b504a2ac4492a44482a4047439803⟩,
  ⟨17, 7, 0x43b4a10268961dc4068000003874d2, 0x3b604b387458⟩,
  ⟨15, 2, 0xf4cd50f48d40f44d38000000eec24, 0x3c0c81⟩,
  ⟨1, 2, 0x80000044d40544d0043ad92c45bc07, 0x45bc54504077⟩,
  ⟨15, 2, 0xf4cd50f48d40f44d38000000eec24, 0x3c7c81⟩,
  ⟨15, 2, 0xf4cd50f48d40f44d38000000eec24, 0x3d301c3d2c6c3d286b3d246a⟩,
  ⟨15, 2, 0xf4cd50f48d40f44d38000000eec24, 0x3d401c3d3c6c3d386b3d346a⟩,
  ⟨1, 5, 0x112c3c8000000fcc150fc812889044, 0x0⟩,
  ⟨1, 5, 0x112c3c8000000fcc150fc812889444, 0x0⟩,
  ⟨1, 5, 0x112c3c8000000fcc150fc812889844, 0x0⟩,
  ⟨15, 2, 0xf4cd50f48d40f44d38000000eec24, 0x3d4481⟩,
  ⟨15, 2, 0xf4cd50f48d40f44d38000000eec24, 0x3e601c3e5c6c3e586b3e546a⟩,
  ⟨15, 2, 0xf4cd50f48d40f44d38000000eec24, 0x3e701c3e6c6c3e686b3e646a⟩,
  ⟨15, 2, 0xf4cd50f48d40f44d38000000eec24, 0x3f741c3f706c3f6c6b3f686a⟩,
  ⟨15, 2, 0xf4cd50f48d40f44d38000000eec24, 0x3f841c3f806c3f7c6b3f786a⟩,
  ⟨15, 2, 0x8000008099a7, 0x0⟩,
  ⟨15, 2, 0x8000008099a7, 0x0⟩,
  ⟨1, 6, 0x11343c800000103c151038128190c7, 0x0⟩,
  ⟨1, 5, 0x80000057101d80b844007009, 0x41dc20⟩,
  ⟨1, 5, 0x80000057141d80b844007009, 0x41dc20⟩,
  ⟨9, 2, 0x800000820d4c, 0x0⟩,
  ⟨9, 2, 0x80000082114c, 0x0⟩,
  ⟨9, 2, 0x80000082154c, 0x0⟩,
  ⟨10, 2, 0x80000018a87430f8ca3ac8555404282ab407, 0x45a462337c342f2415⟩,
  ⟨1, 2, 0x1e282f80000046180c1ad007, 0x1e304a1e2c491ad8481ad447445c03⟩,
  ⟨17, 7, 0x43b4a102689619640680000039c0d2, 0x3b604b39c058⟩,
  ⟨1, 2, 0x2d942f80000046180c2afc07, 0x2f7c4a2d98492b04482b0047448003⟩,
  ⟨17, 7, 0x43b4a102689622ec0680000039c0d2, 0x3b604b39c058⟩,
  ⟨1, 2, 0x17842f80000046180c164007, 0x178c4a17884916484816444744a003⟩,
  ⟨17, 7, 0x43b4a10268961f6c0680000039c0d2, 0x3b604b39c058⟩,
  ⟨1, 2, 0x30302f80000046180c2c3807, 0x32b84a3034492c40482c3c4744c003⟩,
  ⟨17, 7, 0x43b4a102689623300680000039c0d2, 0x3b604b39c058⟩,
  ⟨17, 7, 0x43b4a10268962554068000003874d2, 0x3b604b387458⟩,
  ⟨17, 7, 0x43b4a102689626900680000039c0d2, 0x3b604b39c058⟩,
  ⟨17, 7, 0x43b4a10268961f940680000039c0d2, 0x42644b39c058⟩,
  ⟨1, 2, 0x573052800000037c031d6009343007, 0x34e80644384c⟩,
  ⟨1, 2, 0x10c4828000008104de, 0x0⟩,
  ⟨1, 2, 0x2ac02f80000046180c2f3007, 0x2b504a2ac4492f38482f344744f803⟩,
  ⟨1, 2, 0x10c4828000008024de, 0x0⟩,
  ⟨1, 2, 0x10c8828000008024de, 0x0⟩,
  ⟨1, 2, 0x800000037c031d6009343007, 0x34e80643104c⟩,
  ⟨8, 2, 0x800000459c01031c023870203ac407, 0x4eec003860014f1c02⟩,
  ⟨1, 2, 0x800000037c031d6009343007, 0x34e80643144c⟩,
  ⟨8, 2, 0x3ae423800000459c01045424031c02, 0x4eec003860014f5802⟩,
  ⟨8, 2, 0x800000459c01031c023890203ae807, 0x4eec003860014f1c02⟩,
  ⟨1, 5, 0x8000000eec24828c0d06a808, 0x3af01c45ec10⟩,
  ⟨1, 2, 0x8000008030a3814008, 0x0⟩,
  ⟨1, 2, 0x800000803126, 0x0⟩,
  ⟨1, 2, 0x389823800000106024889cd6072008, 0x43541c4f6410⟩,
  ⟨1, 2, 0xed86e05183c80000015d409, 0x53e83145a03320f8264f7c32⟩,
  ⟨8, 2, 0x800000459c01031c0238a0203b0007, 0x4eec003860014f8002⟩]

/-- States 3392 to 3455. -/
def states3392 : List PackedRow := [
  ⟨1, 2, 0x80000044b40544b00454801d0b5007, 0xc0c300bb4140b5415⟩,
  ⟨8, 2, 0x43783c8000004ea001147c3b, 0x3b1c000c5c66462478⟩,
  ⟨8, 2, 0x8000000edc01041002841d4d, 0x4f980f212029⟩,
  ⟨1, 2, 0x80000044d40544d00446484c45c807, 0x4fcc5754a454⟩,
  ⟨8, 2, 0x800000800c6c823c6706c008, 0x0⟩,
  ⟨8, 2, 0x800000459c01031c0238b8203b4007, 0x4eec003860014f8002⟩,
  ⟨1, 5, 0x8000008080e1, 0x0⟩,
  ⟨1, 5, 0x80000080ace1, 0x0⟩,
  ⟨1, 2, 0x800000037c031d6009343007, 0x34e806466c4c⟩,
  ⟨1, 2, 0x800000037c031d600930b407, 0x31780643104c⟩,
  ⟨1, 2, 0x800000037c031d600930b807, 0x317c0643144c⟩,
  ⟨1, 2, 0x8000000f09a88414c80f0408, 0x4370754f8c69⟩,
  ⟨1, 2, 0xed86e05183c80000015f809, 0x53e83145a03303c426500032⟩,
  ⟨1, 2, 0x8000000f09a88420c80f0408, 0x43a475502069⟩,
  ⟨15, 2, 0x8000004f8824318c08855098, 0x0⟩,
  ⟨1, 2, 0xed86e05183c80000015d409, 0x53e83145a03321bc26503c32⟩,
  ⟨1, 2, 0xed86e05183c800000160409, 0x53e83145a0330b8426504832⟩,
  ⟨8, 2, 0x3ae423800000459c0106cc24031c02, 0x4eec003860014f5802⟩,
  ⟨1, 2, 0xed86e05183c80000015d409, 0x53e83145a03321c426507832⟩,
  ⟨1, 5, 0x8000008124e1, 0x0⟩,
  ⟨1, 2, 0xed86e05183c80000015ec09, 0x53e83145a033262026509432⟩,
  ⟨1, 5, 0x8000000eec2481dc0d06a808, 0x3bcc1c46c810⟩,
  ⟨1, 2, 0xed86e05183c800000160c09, 0x53e83145a0330d282650c432⟩,
  ⟨8, 2, 0x80000011040156cc1d43dc2a84243b, 0x43e06d4d240f⟩,
  ⟨15, 2, 0x80000082192d, 0x0⟩,
  ⟨1, 2, 0xed86e05183c80000015f809, 0x53e83145a03303e02650cc32⟩,
  ⟨1, 2, 0xed86e05183c800000160409, 0x53e83145a0330ba02650dc32⟩,
  ⟨8, 2, 0x800000800c6c50e83424ac2a, 0x4de01f⟩,
  ⟨8, 2, 0x800000840a9e, 0x0⟩,
  ⟨1, 2, 0xed86e05183c80000015d409, 0x53e83145a033222426510032⟩,
  ⟨1, 2, 0xed86e05183c80000015ec09, 0x53e83145a033263826510832⟩,
  ⟨1, 5, 0x8000000eec24808c0d06a808, 0x3c181c470010⟩,
  ⟨1, 5, 0x8000000eec24808c0d06a808, 0x3c341c472810⟩,
  ⟨1, 5, 0x8000000eec2488a044, 0x3c4c1c⟩,
  ⟨15, 2, 0x80000080f12d, 0x0⟩,
  ⟨15, 2, 0x80000080f12d, 0x0⟩,
  ⟨1, 2, 0xed86e05183c800000160c09, 0x53e83145a0330d8826512432⟩,
  ⟨1, 5, 0x8000000eec2480280d06a808, 0x3c741c475010⟩,
  ⟨1, 5, 0x8000000eec2480280d06a808, 0x3c881c476c10⟩,
  ⟨1, 5, 0x8000000eec2480280d06a808, 0x3c981c478010⟩,
  ⟨1, 5, 0x8000000eec2480280d06a808, 0x3cb01c479c10⟩,
  ⟨1, 5, 0x8000000eec2480280d06a808, 0x3cb41c47a010⟩,
  ⟨1, 5, 0x8000000eec2480280d06a808, 0x3cc41c47b410⟩,
  ⟨1, 5, 0x8000000eec2480280d06a808, 0x3cc81c47b810⟩,
  ⟨1, 5, 0x8000000eec2480280d06a808, 0x3ccc1c47c010⟩,
  ⟨1, 5, 0x8000000eec2480280d06a808, 0x3cd01c47c410⟩,
  ⟨1, 5, 0x8000000eec2480280d06a808, 0x3ce81c47e810⟩,
  ⟨1, 5, 0x8000000eec2480280d06a808, 0x3cf81c47fc10⟩,
  ⟨1, 5, 0x8000000eec24842844, 0x3d0c1c⟩,
  ⟨1, 5, 0x8000000eec24842844, 0x3d181c⟩,
  ⟨15, 2, 0x800000821d2d, 0x0⟩,
  ⟨1, 5, 0x8000000eec2480180d06a808, 0x3d4c1c480c10⟩,
  ⟨1, 5, 0x8000000eec2480180d06a808, 0x3d581c482010⟩,
  ⟨1, 5, 0x8000000eec2480180d06a808, 0x3d641c483810⟩,
  ⟨1, 5, 0x8000000eec2480180d06a808, 0x3d6c1c484410⟩,
  ⟨1, 5, 0x8000000eec2480180d06a808, 0x3d701c484810⟩,
  ⟨1, 5, 0x8000000eec2480180d06a808, 0x3d781c485c10⟩,
  ⟨1, 5, 0x8000000eec2480180d06a808, 0x3d7c1c486010⟩,
  ⟨1, 5, 0x8000000eec2480180d06a808, 0x3d881c487010⟩,
  ⟨1, 5, 0x8000000eec2480180d06a808, 0x3d8c1c487410⟩,
  ⟨1, 5, 0x8000000eec2480180d06a808, 0x3d941c488010⟩,
  ⟨1, 5, 0x8000000eec2480180d06a808, 0x3d981c488410⟩,
  ⟨1, 5, 0x8000000eec2480180d06a808, 0x3d9c1c488c10⟩,
  ⟨1, 5, 0x8000000eec2480180d06a808, 0x3da01c489010⟩]

/-- States 3456 to 3519. -/
def states3456 : List PackedRow := [
  ⟨1, 5, 0x8000000eec2480180d06a808, 0x3db41c48b010⟩,
  ⟨1, 5, 0x8000000eec2480180d06a808, 0x3db81c48b410⟩,
  ⟨1, 5, 0x8000000eec2480180d06a808, 0x3dc41c48c410⟩,
  ⟨1, 5, 0x8000000eec2480180d06a808, 0x3dc81c48c810⟩,
  ⟨1, 5, 0x8000000eec2480180d06a808, 0x3dcc1c48d010⟩,
  ⟨1, 5, 0x8000000eec2480180d06a808, 0x3dd01c48d410⟩,
  ⟨1, 5, 0x8000000eec2480180d06a808, 0x3dd81c48f010⟩,
  ⟨1, 5, 0x8000000eec2480180d06a808, 0x3de81c490410⟩,
  ⟨1, 5, 0x8000000eec2480180d06a808, 0x3e001c492010⟩,
  ⟨1, 5, 0x8000000eec2480180d06a808, 0x3e041c492410⟩,
  ⟨1, 5, 0x8000000eec2480180d06a808, 0x3e101c493410⟩,
  ⟨1, 5, 0x8000000eec2480180d06a808, 0x3e141c493810⟩,
  ⟨1, 5, 0x8000000eec2480180d06a808, 0x3e181c494010⟩,
  ⟨1, 5, 0x8000000eec2480180d06a808, 0x3e1c1c494410⟩,
  ⟨1, 5, 0x8000000eec2480180d06a808, 0x3e241c495810⟩,
  ⟨1, 5, 0x8000000eec2480180d06a808, 0x3e2c1c496410⟩,
  ⟨1, 5, 0x8000000eec24842c44, 0x3e481c⟩,
  ⟨1, 5, 0x8000000eec2480100d06a808, 0x3e741c497c10⟩,
  ⟨1, 5, 0x8000000eec2480100d06a808, 0x3e7c1c499410⟩,
  ⟨1, 5, 0x8000000eec2480100d06a808, 0x3e841c49b010⟩,
  ⟨1, 5, 0x8000000eec2480100d06a808, 0x3e881c49b410⟩,
  ⟨1, 5, 0x8000000eec2480100d06a808, 0x3e901c49c810⟩,
  ⟨1, 5, 0x8000000eec2480100d06a808, 0x3e941c49cc10⟩,
  ⟨1, 5, 0x8000000eec2480100d06a808, 0x3e981c49d410⟩,
  ⟨1, 5, 0x8000000eec2480100d06a808, 0x3e9c1c49d810⟩,
  ⟨1, 5, 0x8000000eec2480100d06a808, 0x3ea01c49e810⟩,
  ⟨1, 5, 0x8000000eec2480100d06a808, 0x3ea41c49ec10⟩,
  ⟨1, 5, 0x8000000eec2480100d06a808, 0x3eac1c4a0810⟩,
  ⟨1, 5, 0x8000000eec2480100d06a808, 0x3eb01c4a0c10⟩,
  ⟨1, 5, 0x8000000eec2480100d06a808, 0x3ebc1c4a1c10⟩,
  ⟨1, 5, 0x8000000eec2480100d06a808, 0x3ec01c4a2010⟩,
  ⟨1, 5, 0x8000000eec2480100d06a808, 0x3ec81c4a2c10⟩,
  ⟨1, 5, 0x8000000eec2480100d06a808, 0x3ecc1c4a3010⟩,
  ⟨1, 5, 0x8000000eec2480100d06a808, 0x3ed01c4a3810⟩,
  ⟨1, 5, 0x8000000eec2480100d06a808, 0x3ed41c4a3c10⟩,
  ⟨1, 5, 0x8000000eec2480100d06a808, 0x3edc1c4a5010⟩,
  ⟨1, 5, 0x8000000eec2480100d06a808, 0x3ee01c4a5410⟩,
  ⟨1, 5, 0x8000000eec2480100d06a808, 0x3ee41c4a5c10⟩,
  ⟨1, 5, 0x8000000eec2480100d06a808, 0x3ee81c4a6010⟩,
  ⟨1, 5, 0x8000000eec2480100d06a808, 0x3eec1c4a7810⟩,
  ⟨1, 5, 0x8000000eec2480100d06a808, 0x3ef81c4a9010⟩,
  ⟨1, 5, 0x8000000eec2480100d06a808, 0x3f001c4a9c10⟩,
  ⟨1, 5, 0x8000000eec2480100d06a808, 0x3f041c4aa010⟩,
  ⟨1, 5, 0x8000000eec2480100d06a808, 0x3f0c1c4ab410⟩,
  ⟨1, 5, 0x8000000eec2480100d06a808, 0x3f101c4ab810⟩,
  ⟨1, 5, 0x8000000eec2480100d06a808, 0x3f1c1c4ac810⟩,
  ⟨1, 5, 0x8000000eec2480100d06a808, 0x3f201c4acc10⟩,
  ⟨1, 5, 0x8000000eec2480100d06a808, 0x3f281c4ad810⟩,
  ⟨1, 5, 0x8000000eec2480100d06a808, 0x3f2c1c4adc10⟩,
  ⟨1, 5, 0x8000000eec2480100d06a808, 0x3f301c4ae410⟩,
  ⟨1, 5, 0x8000000eec2480100d06a808, 0x3f341c4ae810⟩,
  ⟨1, 5, 0x8000000eec2480100d06a808, 0x3f3c1c4afc10⟩,
  ⟨1, 5, 0x8000000eec2480100d06a808, 0x3f401c4b0010⟩,
  ⟨1, 5, 0x8000000eec2480100d06a808, 0x3f441c4b0810⟩,
  ⟨1, 5, 0x8000000eec2480100d06a808, 0x3f481c4b0c10⟩,
  ⟨1, 5, 0x8000000eec2480100d06a808, 0x3f4c1c4b2410⟩,
  ⟨1, 5, 0x8000000eec2480140d06a808, 0x3f881c4b4410⟩,
  ⟨1, 5, 0x8000000eec2480140d06a808, 0x3f901c4b5c10⟩,
  ⟨1, 5, 0x8000000eec2480140d06a808, 0x3f941c4b6010⟩,
  ⟨1, 5, 0x8000000eec2480140d06a808, 0x3f981c4b8010⟩,
  ⟨1, 5, 0x8000000eec2480140d06a808, 0x3f9c1c4b8410⟩,
  ⟨1, 5, 0x8000000eec2480140d06a808, 0x3fa41c4b9810⟩,
  ⟨1, 5, 0x8000000eec2480140d06a808, 0x3fa81c4b9c10⟩,
  ⟨1, 5, 0x8000000eec2480140d06a808, 0x3fac1c4ba410⟩]

/-- States 3520 to 3583. -/
def states3520 : List PackedRow := [
  ⟨1, 5, 0x8000000eec2480140d06a808, 0x3fb01c4ba810⟩,
  ⟨1, 5, 0x8000000eec2480140d06a808, 0x3fb41c4bb810⟩,
  ⟨1, 5, 0x8000000eec2480140d06a808, 0x3fb81c4bbc10⟩,
  ⟨1, 5, 0x8000000eec2480140d06a808, 0x3fbc1c4bd410⟩,
  ⟨1, 5, 0x8000000eec2480140d06a808, 0x3fc01c4bd810⟩,
  ⟨1, 5, 0x8000000eec2480140d06a808, 0x3fc41c4bf810⟩,
  ⟨1, 5, 0x8000000eec2480140d06a808, 0x3fcc1c4c1410⟩,
  ⟨1, 5, 0x8000000eec2480140d06a808, 0x3fd01c4c1810⟩,
  ⟨1, 5, 0x8000000eec2480140d06a808, 0x3fd81c4c2c10⟩,
  ⟨1, 5, 0x8000000eec2480140d06a808, 0x3fdc1c4c3010⟩,
  ⟨1, 5, 0x8000000eec2480140d06a808, 0x3fe01c4c3810⟩,
  ⟨1, 5, 0x8000000eec2480140d06a808, 0x3fe41c4c3c10⟩,
  ⟨1, 5, 0x8000000eec2480140d06a808, 0x3fe81c4c4c10⟩,
  ⟨1, 5, 0x8000000eec2480140d06a808, 0x3fec1c4c5010⟩,
  ⟨1, 5, 0x8000000eec2480140d06a808, 0x3ff01c4c6810⟩,
  ⟨1, 5, 0x8000000eec2480140d06a808, 0x3ff41c4c6c10⟩,
  ⟨1, 5, 0x8000000eec24801c0d06a808, 0x40081c4ca010⟩,
  ⟨1, 5, 0x8000000eec24801c0d06a808, 0x400c1c4ca410⟩,
  ⟨1, 5, 0x8000000eec24801c0d06a808, 0x40101c4cdc10⟩,
  ⟨1, 5, 0x8000000eec24801c0d06a808, 0x40141c4ce010⟩,
  ⟨1, 2, 0x8000008555a906f02a, 0x375c36⟩,
  ⟨1, 5, 0x8000008124e1, 0x0⟩,
  ⟨1, 5, 0x8000008548e1, 0x0⟩,
  ⟨1, 2, 0x8000008359a988a42a, 0x375c36⟩,
  ⟨1, 5, 0x80000083c4e1, 0x0⟩,
  ⟨1, 5, 0x80000083c4e1, 0x0⟩,
  ⟨1, 5, 0x800000854ce1, 0x0⟩,
  ⟨1, 5, 0x800000843044004809, 0x4fe420⟩,
  ⟨1, 5, 0x800000829444004809, 0x506c20⟩,
  ⟨1, 5, 0x800000829444004809, 0x507420⟩,
  ⟨1, 5, 0x800000829844004809, 0x50ec20⟩,
  ⟨1, 5, 0x800000829844004809, 0x50f420⟩,
  ⟨1, 5, 0x800000829c44004809, 0x512820⟩,
  ⟨1, 5, 0x800000829c44004809, 0x513020⟩,
  ⟨1, 5, 0x80000082a044004809, 0x513c20⟩,
  ⟨1, 5, 0x80000082a044004809, 0x514420⟩,
  ⟨1, 5, 0x80000082a444004809, 0x514c20⟩,
  ⟨1, 5, 0x80000082a444004809, 0x515420⟩,
  ⟨1, 5, 0x80000082a844004809, 0x515c20⟩,
  ⟨1, 5, 0x80000082a844004809, 0x516420⟩,
  ⟨1, 5, 0x800000843444004809, 0x516820⟩,
  ⟨1, 5, 0x80000084392e, 0x0⟩,
  ⟨1, 5, 0x800000843d2e, 0x0⟩,
  ⟨1, 5, 0x80000084412e, 0x0⟩,
  ⟨1, 5, 0x80000084452e, 0x0⟩,
  ⟨1, 5, 0x80000080b844007009, 0x41dc20⟩,
  ⟨1, 5, 0x8000008099aa, 0x0⟩,
  ⟨1, 5, 0x8000008099aa, 0x0⟩,
  ⟨1, 2, 0xed86e05183c80000015ec09, 0x53e83145a03318dc2651a432⟩,
  ⟨1, 2, 0x80000044280544240458d81d347c07, 0x40383037b414348015⟩,
  ⟨8, 2, 0x43783c8000004ea00114a83b, 0x41fc00405c664d9478⟩,
  ⟨8, 2, 0x8000000edc01041c02841d4d, 0x51b40f190429⟩,
  ⟨1, 2, 0xed86e05183c80000015d409, 0x53e83145a033228c2651e032⟩,
  ⟨1, 2, 0xed86e05183c80000015ec09, 0x53e83145a033197826520432⟩,
  ⟨1, 2, 0xed86e05183c800000160409, 0x53e83145a03340d026520832⟩,
  ⟨1, 2, 0xed86e05183c80000015ec09, 0x53e83145a033198026521832⟩,
  ⟨1, 2, 0xed86e05183c800000160409, 0x53e83145a03340f826523c32⟩,
  ⟨1, 2, 0x1080828000008104b9, 0x0⟩,
  ⟨1, 2, 0xed86e05183c80000015d409, 0x53e83145a03322b026524032⟩,
  ⟨1, 2, 0xed86e05183c800000160409, 0x53e83145a033411c26524832⟩,
  ⟨1, 2, 0xed86e05183c80000015ec09, 0x53e83145a03319ac26525832⟩,
  ⟨1, 2, 0xed86e05183c800000160409, 0x53e83145a033414826525c32⟩,
  ⟨1, 2, 0xed86e05183c80000015d409, 0x53e83145a03322d826528c32⟩,
  ⟨1, 2, 0xed86e05183c80000015d409, 0x53e83145a03323042652bc32⟩]

end JsxDetect.Automaton
