import JsxDetect.Automaton.Packed

/-!
# Parsing automaton: states 2048 to 2559

Packed rows; see `PackedRow` for the layout.
-/

namespace JsxDetect.Automaton

/-- States 2048 to 2111. -/
def states2048 : List PackedRow := [
  ⟨12, 4, 0xa18420ee43d385c0680000020bc0a079c41079833027c0107942c079016078c15078839078412078030077c3f07783e45a8274f281d052403076c3180cc6804100213b82d0ee03607742e, 0x1b8c0f20b81345ac12⟩,
  ⟨12, 4, 0xa18420ee43d385c0680000020bc0a079c41079833027c0107942c079016078c15078839078412078030077c3f07783e45a8274f281d052403076c3180cc6804100213b82d0ee03607742e, 0x1b8c0f20b81345ac12⟩,
  ⟨12, 4, 0xa18424108570ee43d385c0680000020bc0a079c41079833027c0107942c079016078c15078839078412078030077c3f07783e45a8274f281d052403076c31410c4604100213b82d0ee03607742e, 0x1b8c0f20b81345ac12⟩,
  ⟨12, 4, 0xa18420ee43d385c0680000020bc0a079c41079833027c0107942c079016078c15078839078412078030077c3f07783e45a8274f281d052403076c3181c06804100213b82d0ee03607742e, 0x1b8c0f20b81345ac12⟩,
  ⟨12, 4, 0x385c0680000020bc0a87fc0145a8274f281d052403041002818654, 0x1b8c0f20b81345ac12⟩,
  ⟨12, 4, 0xee43d385c0680000020bc0a88000145a8274f281d05240304100213b82d0ee036818a55, 0x1b8c0f20b81345ac12⟩,
  ⟨12, 4, 0xa18420ee43d385c0680000020bc0a079c41079833027c0107942c079016078c15078839078412078030077c3f07783e45a8274f281d052403076c3181b46804100213b82d0ee03607742e, 0x1b8c0f20b81345ac12⟩,
  ⟨12, 4, 0x385c0680000088040145a8274f281d052403041002811e56, 0x1b8c0f20b81345ac12⟩,
  ⟨12, 4, 0x80583c800000807c9b08240880056f, 0x0⟩,
  ⟨12, 3, 0x8d042105c3d39b40680000018b40a08ac4108a83302880108a42c08a016089c15089839089412089030088c3f08883e45a827518c1d058803088031041c0211f42d8064b310583608842e, 0x16540f18b0134d6c12⟩,
  ⟨12, 3, 0x8d042105c3d39b40680000018b40a08ac4108a83302880108a42c08a016089c15089839089412089030088c3f08883e45a827518c1d058803088031041c0211f42d80a0b310583608842e, 0x16540f18b0134d6c12⟩,
  ⟨12, 3, 0x8d042105c3d39b40680000018b40a08ac4108a83302880108a42c08a016089c15089839089412089030088c3f08883e45a827518c1d058803088031041c0211f42d81b8b310583608842e, 0x16540f18b0134d6c12⟩,
  ⟨12, 3, 0x8d042105c3d39b40680000018b40a08ac4108a83302880108a42c08a016089c15089839089412089030088c3f08883e45a827518c1d058803088031041c0211f42d80a0b310583608842e, 0x16540f18b0134d6c12⟩,
  ⟨12, 3, 0x8d042105c3d39b40680000018b40a08ac4108a83302880108a42c08a016089c15089839089412089030088c3f08883e45a827518c1d058803088031041c0211f42d8064b310583608842e, 0x16540f18b0134d6c12⟩,
  ⟨12, 3, 0x39b40680000018b40a02880108a42c08a01608903045a827518c1d058803041c0280225708842e, 0x16540f18b0134d6c12⟩,
  ⟨12, 3, 0x39b40680000018b40a83980108a42c45a827518c1d058803041c02802258, 0x16540f18b0134d6c12⟩,
  ⟨12, 3, 0x39b40680000018b40a08a83302880108a42c08a016089c1508983908941208903045a827518c1d058803088031041c0280225908842e, 0x16540f18b0134d6c12⟩,
  ⟨12, 3, 0x39b40680000018b40a08a83302880108a42c08a016089c1508983908941208903008883e45a827518c1d058803088031041c0280225a08842e, 0x16540f18b0134d6c12⟩,
  ⟨12, 3, 0x39b40680000018b40a83980108a42c08a01645a827518c1d058803041c0280225b08842e, 0x16540f18b0134d6c12⟩,
  ⟨12, 3, 0x39b40680000018b40a08a83302880108a42c08a01608903045a827518c1d058803088031041c0280225c08842e, 0x16540f18b0134d6c12⟩,
  ⟨12, 3, 0x39b40680000018b40a08a83302880108a42c08a01608941208903045a827518c1d058803088031041c0280225d08842e, 0x16540f18b0134d6c12⟩,
  ⟨12, 3, 0x39b40680000018b40a08a83302880108a42c08a01608983908941208903045a827518c1d058803088031041c0280225e08842e, 0x16540f18b0134d6c12⟩,
  ⟨12, 3, 0x39b40680000018b40a83980108a42c45a827518c1d058803041c0280225f08842e, 0x16540f18b0134d6c12⟩,
  ⟨12, 3, 0x105c3d39b40680000018b40a83980108a42c45a827518c1d058803041c0211f42d105836802260, 0x16540f18b0134d6c12⟩,
  ⟨12, 3, 0x39b40680000018b40a02880108a42c08a01608903045a827518c1d058803088031041c0280226108842e, 0x16540f18b0134d6c12⟩,
  ⟨12, 3, 0x39b40680000018b40a08a83302880108a42c08a016089c15089839089412089030088c3f08883e45a827518c1d058803088031041c0280226208842e, 0x16540f18b0134d6c12⟩,
  ⟨12, 3, 0x8d042105c3d39b40680000018b40a08ac4108a83302880108a42c08a016089c15089839089412089030088c3f08883e45a827518c1d058803088031041c0211f42d8064b310583608842e, 0x16540f18b0134d6c12⟩,
  ⟨12, 3, 0x8d042105c3d39b40680000018b40a08ac4108a83302880108a42c08a016089c15089839089412089030088c3f08883e45a827518c1d058803088031041c0211f42d81bcb310583608842e, 0x16540f18b0134d6c12⟩,
  ⟨12, 3, 0x8d042105c3d39b40680000018b40a08ac4108a83302880108a42c08a016089c15089839089412089030088c3f08883e45a827518c1d058803088031041c0211f42d8068b310583608842e, 0x16540f18b0134d6c12⟩,
  ⟨12, 3, 0x8d042105c3d39b40680000018b40a08ac4108a83302880108a42c08a016089c15089839089412089030088c3f08883e45a827518c1d058803088031041c0211f42d8068b310583608842e, 0x16540f18b0134d6c12⟩,
  ⟨12, 3, 0x8d042105c3d39b40680000018b40a08ac4108a83302880108a42c08a016089c15089839089412089030088c3f08883e45a827518c1d058803088031041c0211f42d8068b310583608842e, 0x16540f18b0134d6c12⟩,
  ⟨12, 3, 0x8d042105c3d39b40680000018b40a08ac4108a83302880108a42c08a016089c15089839089412089030088c3f08883e45a827518c1d058803088031041c0211f42d80ccb310583608842e, 0x16540f18b0134d6c12⟩,
  ⟨12, 3, 0x8d042105c3d39b40680000018b40a08ac4108a83302880108a42c08a016089c15089839089412089030088c3f08883e45a827518c1d058803088031041c0211f42d80ccb310583608842e, 0x16540f18b0134d6c12⟩,
  ⟨12, 3, 0x8d042105c3d39b40680000018b40a08ac4108a83302880108a42c08a016089c15089839089412089030088c3f08883e45a827518c1d058803088031041c0211f42d81c0b310583608842e, 0x16540f18b0134d6c12⟩,
  ⟨12, 3, 0x39b40680000018b40a88080145a827518c1d058803041c02818663, 0x16540f18b0134d6c12⟩,
  ⟨12, 3, 0x105c3d39b40680000018b40a880c0145a827518c1d058803041c0211f42d105836818a64, 0x16540f18b0134d6c12⟩,
  ⟨12, 3, 0x8d042105c3d39b40680000018b40a08ac4108a83302880108a42c08a016089c15089839089412089030088c3f08883e45a827518c1d058803088031041c0211f42d81b4b310583608842e, 0x16540f18b0134d6c12⟩,
  ⟨12, 3, 0x39b40680000088100145a827518c1d058803041c02811e65, 0x16540f18b0134d6c12⟩,
  ⟨12, 4, 0x80000080045c, 0x0⟩,
  ⟨12, 4, 0x8000000654088004f1, 0x0⟩,
  ⟨12, 4, 0x80000081ec5c, 0x0⟩,
  ⟨12, 4, 0x800000800d8f804477800497, 0x0⟩,
  ⟨12, 3, 0x8000008524a68318e680044f, 0x0⟩,
  ⟨12, 4, 0x80000084f05c, 0x0⟩,
  ⟨12, 4, 0x80000083605c, 0x0⟩,
  ⟨12, 4, 0x800000815c5c, 0x0⟩,
  ⟨12, 4, 0x80000080ec5c, 0x0⟩,
  ⟨12, 4, 0x800000811c5c, 0x0⟩,
  ⟨12, 4, 0x80000084f45c, 0x0⟩,
  ⟨12, 4, 0x80000084f85c, 0x0⟩,
  ⟨12, 4, 0x80000083645c, 0x0⟩,
  ⟨12, 4, 0x80000080645c, 0x0⟩,
  ⟨12, 4, 0x80000084fc5c, 0x0⟩,
  ⟨1, 2, 0x544c29800000064c4e44b40544b0040388038814671fa009438447, 0x544c114f503e544806⟩,
  ⟨12, 4, 0x80000081205c, 0x0⟩,
  ⟨8, 2, 0x281443388c2980000044d40544d004069803800c6c1d6c3416502a06c008294820388879, 0x45d82145d41f388c11⟩,
  ⟨8, 2, 0x281443388c2980000027e80e44d40544d004069803800c6c1d6c3416502a06c008294820388878, 0x45d82145d41f388c11⟩,
  ⟨12, 3, 0x800000831c9280044f, 0x0⟩,
  ⟨12, 3, 0x800000831c9280044f, 0x0⟩,
  ⟨12, 4, 0x80000083f85c, 0x0⟩,
  ⟨8, 5, 0x281c4338cc2980000044d40544d004069803800c73295820388879, 0x38cc11⟩,
  ⟨12, 4, 0x80000080fc5c, 0x0⟩,
  ⟨12, 4, 0x80000080fc5c, 0x0⟩,
  ⟨12, 4, 0x80000085005c, 0x0⟩]

/-- States 2112 to 2175. -/
def states2112 : List PackedRow := [
  ⟨12, 4, 0x800000834c5c, 0x0⟩,
  ⟨13, 4, 0x21990a8000008314f1, 0x0⟩,
  ⟨12, 4, 0x80000081c45c, 0x0⟩,
  ⟨12, 4, 0x80000081c45c, 0x0⟩,
  ⟨12, 4, 0x80000085045c, 0x0⟩,
  ⟨12, 4, 0x80000080645c, 0x0⟩,
  ⟨12, 4, 0x80000083685c, 0x0⟩,
  ⟨12, 3, 0x8d042105c3d39b40680000018b40a08ac4108a83302880108a42c08a016089c15089839089412089030088c3f08883e45a827518c1d05880306c824088031041c0211f42d10583608842e, 0x16540f18b0134d6c12⟩,
  ⟨12, 4, 0x80000083685c, 0x0⟩,
  ⟨12, 4, 0x80000085085c, 0x0⟩,
  ⟨12, 4, 0x800000836c5c, 0x0⟩,
  ⟨12, 4, 0x80000083705c, 0x0⟩,
  ⟨12, 4, 0x80000080645c, 0x0⟩,
  ⟨12, 4, 0x80000080fc5c, 0x0⟩,
  ⟨1, 2, 0x27d04927cc5626b04326142624d05935442980000006b84e26100e44d40544d00406980350643424ac2a294420356ccc, 0x4dd81f28e4222890273544114dd440⟩,
  ⟨12, 4, 0x80000082785c, 0x0⟩,
  ⟨12, 3, 0x93042105c3d39b40680000018b40a090c41090833028c0109042c09001608fc1508f83908f41208f03008ec3f08e83e45a827518c1d35704505880308e031041c0211f42d10583608e42e, 0x16540f18b0134d6c12⟩,
  ⟨12, 4, 0x80000084098f88187783f897, 0x0⟩,
  ⟨12, 4, 0x80000082785c, 0x0⟩,
  ⟨12, 4, 0x80000080fc5c, 0x0⟩,
  ⟨12, 3, 0x80000081d49280044f, 0x0⟩,
  ⟨12, 3, 0x80000081d49280044f, 0x0⟩,
  ⟨12, 3, 0x80000081d49280044f, 0x0⟩,
  ⟨12, 3, 0x80000081d49280044f, 0x0⟩,
  ⟨12, 4, 0x800000850c5c, 0x0⟩,
  ⟨8, 5, 0x28284338f42980000044d40544d004069803800c73297820388879, 0x38f411⟩,
  ⟨8, 5, 0x24f0432cb02980000021e00e44280544240407a403800c732978202f4c78, 0x2cb011⟩,
  ⟨8, 5, 0x2878433a682980000044d40544d004069803800c732a2420388879, 0x3a6811⟩,
  ⟨12, 3, 0x39b406800000041c02881ca5834990, 0x18f813⟩,
  ⟨8, 5, 0x28344339002980000044d40544d004069803800c8c29a020388879, 0x390011⟩,
  ⟨8, 5, 0x24f8432d482980000021f00e442805442404054c03800c8c29a0202f4c78, 0x2d4811⟩,
  ⟨12, 4, 0x80000080785c, 0x0⟩,
  ⟨12, 4, 0x80000080685c, 0x0⟩,
  ⟨12, 4, 0x80000081f05c, 0x0⟩,
  ⟨12, 4, 0x80000080685c, 0x0⟩,
  ⟨12, 4, 0x80000080685c, 0x0⟩,
  ⟨12, 4, 0x80000085105c, 0x0⟩,
  ⟨12, 4, 0x80000085145c, 0x0⟩,
  ⟨12, 4, 0x80000085185c, 0x0⟩,
  ⟨12, 4, 0x80000080d85c, 0x0⟩,
  ⟨12, 4, 0x80000080d85c, 0x0⟩,
  ⟨12, 4, 0x80000080d85c, 0x0⟩,
  ⟨12, 4, 0x80000080d85c, 0x0⟩,
  ⟨12, 4, 0x800000851c5c, 0x0⟩,
  ⟨12, 4, 0x80000081cc5c, 0x0⟩,
  ⟨12, 4, 0x80000081cc5c, 0x0⟩,
  ⟨12, 4, 0x80000080785c, 0x0⟩,
  ⟨12, 4, 0x80000080785c, 0x0⟩,
  ⟨12, 4, 0x80000080785c, 0x0⟩,
  ⟨12, 4, 0x80000080785c, 0x0⟩,
  ⟨12, 4, 0x80000081f05c, 0x0⟩,
  ⟨12, 4, 0x80000080785c, 0x0⟩,
  ⟨12, 3, 0x80000081d89280044f, 0x0⟩,
  ⟨12, 3, 0x80000081d89280044f, 0x0⟩,
  ⟨12, 3, 0x80000081d89280044f, 0x0⟩,
  ⟨12, 3, 0x80000081d89280044f, 0x0⟩,
  ⟨8, 5, 0x283c43391c2980000044d40544d004069803800c7329a820388879, 0x391c11⟩,
  ⟨8, 5, 0x2500432cc829800000222c0e44280544240407a403800c7329a8202f4c78, 0x2cc811⟩,
  ⟨8, 5, 0x24e4432ccc2980000022840e44280544240407a403800c732a28202f4c78, 0x2ccc11⟩,
  ⟨8, 5, 0x24e4432ce02980000022840e44280544240407a403800c732a28202f4c78, 0x2ce011⟩,
  ⟨8, 5, 0x28444339282980000044d40544d004069803800c8c29dc20388879, 0x392811⟩,
  ⟨8, 5, 0x2504432d602980000022400e44280544240407a403800c8c29dc202f4c78, 0x2d6011⟩,
  ⟨12, 3, 0x800000807c838070248058c507c808800481, 0x0⟩,
  ⟨12, 4, 0x80000081f85c, 0x0⟩]

/-- States 2176 to 2239. -/
def states2176 : List PackedRow := [
  ⟨12, 4, 0x80000081d05c, 0x0⟩,
  ⟨12, 4, 0x80000081d05c, 0x0⟩,
  ⟨8, 5, 0x39cc2980000044d40544d004069803800c7181806706c008388847, 0x39cc11⟩,
  ⟨8, 5, 0x25cc432d6c2980000023840e44280544240407a403800c8c2a10202f4c78, 0x2d6c11⟩,
  ⟨12, 4, 0x800000809c5c, 0x0⟩,
  ⟨12, 4, 0x800000809c5c, 0x0⟩,
  ⟨12, 4, 0x80000082bc5c, 0x0⟩,
  ⟨12, 4, 0x80000081f85c, 0x0⟩,
  ⟨12, 4, 0x800000809c5c, 0x0⟩,
  ⟨12, 4, 0x800000809c5c, 0x0⟩,
  ⟨12, 3, 0x80000085289280044f, 0x0⟩,
  ⟨8, 5, 0x284c4339402980000044d40544d004069803800c7329e420388879, 0x394011⟩,
  ⟨8, 5, 0x2508432ce42980000022540e44280544240407a403800c7329e4202f4c78, 0x2ce411⟩,
  ⟨8, 5, 0x24ec432ce82980000022980e44280544240407a403800c732a2c202f4c78, 0x2ce811⟩,
  ⟨8, 5, 0x24ec432cec2980000022980e44280544240407a403800c732a2c202f4c78, 0x2cec11⟩,
  ⟨8, 5, 0x24ec432cf42980000022980e44280544240407a403800c732a2c202f4c78, 0x2cf411⟩,
  ⟨8, 5, 0x28504339482980000044d40544d004069803800c8c29f820388879, 0x394811⟩,
  ⟨8, 5, 0x250c432d7029800000225c0e44280544240407a403800c8c29f8202f4c78, 0x2d7011⟩,
  ⟨8, 5, 0x25d4432d742980000023880e44280544240407a403800c8c2a14202f4c78, 0x2d7411⟩,
  ⟨12, 4, 0x80000082c45c, 0x0⟩,
  ⟨12, 4, 0x80000082445c, 0x0⟩,
  ⟨8, 5, 0x28544339582980000044d40544d004069803800c7329fc20388879, 0x395811⟩,
  ⟨8, 5, 0x24fc432cf82980000022b40e44280544240407a403800c732a30202f4c78, 0x2cf811⟩,
  ⟨8, 5, 0x285843395c2980000044d40544d004069803800c8c2a0020388879, 0x395c11⟩,
  ⟨8, 5, 0x2510432d782980000022680e44280544240407a403800c8c2a00202f4c78, 0x2d7811⟩,
  ⟨8, 5, 0x25d8432d7c29800000238c0e44280544240407a403800c8c2a18202f4c78, 0x2d7c11⟩,
  ⟨8, 5, 0x285c43396c2980000044d40544d004069803800c8c2a0420388879, 0x396c11⟩,
  ⟨12, 4, 0x80000081e8b281eca0, 0x0⟩,
  ⟨12, 3, 0x80000083189280044f, 0x0⟩,
  ⟨8, 5, 0x287c433a702980000044d40544d004069803800c732a2820388879, 0x3a7011⟩,
  ⟨8, 2, 0x281443388c2980000044d40544d004069803800c6c1ab83416502a06c008294820388879, 0x45d8214d701f388c11⟩,
  ⟨8, 2, 0x281443388c2980000027e80e44d40544d004069803800c6c1ab83416502a06c008294820388878, 0x45d8214d701f388c11⟩,
  ⟨12, 4, 0xcac5780000082b4b280fcb8, 0x0⟩,
  ⟨8, 5, 0x2880433a842980000044d40544d004069803800c732a2c20388879, 0x3a8411⟩,
  ⟨12, 4, 0xd0c5780000080c0b28078b8, 0x0⟩,
  ⟨12, 4, 0xd105780000080c0b28078b8, 0x0⟩,
  ⟨12, 4, 0xd205780000082b8b281f0b8, 0x0⟩,
  ⟨12, 4, 0xd405780000080c0b28078b8, 0x0⟩,
  ⟨8, 5, 0x2884433a882980000044d40544d004069803800c732a3020388879, 0x3a8811⟩,
  ⟨12, 4, 0xd5c5780000080a8b2809cb8, 0x0⟩,
  ⟨12, 3, 0x80583c800000807c8380702488209a06e408800481, 0x0⟩,
  ⟨12, 4, 0xd605780000081f4b282bcb8, 0x0⟩,
  ⟨12, 4, 0xd645780000082c0b281f8b8, 0x0⟩,
  ⟨12, 4, 0xd7c5780000080a8b2809cb8, 0x0⟩,
  ⟨12, 4, 0xd805780000080a8b2809cb8, 0x0⟩,
  ⟨8, 5, 0x2888433a8c2980000044d40544d004069803800c732a3420388879, 0x3a8c11⟩,
  ⟨12, 4, 0xd985780000081fcb282c4b8, 0x0⟩,
  ⟨12, 4, 0xdac5780000081acb28244b8, 0x0⟩,
  ⟨12, 4, 0x80000081e84481ec4f, 0x0⟩,
  ⟨8, 2, 0x281443388c2980000044d40544d004069803800c6c19bc3416502a06c008294820388879, 0x45d8214d701f388c11⟩,
  ⟨8, 2, 0x281443388c2980000027e80e44d40544d004069803800c6c19bc3416502a06c008294820388878, 0x45d8214d701f388c11⟩,
  ⟨12, 4, 0x80000082b44480fc4f, 0x0⟩,
  ⟨12, 3, 0x800000805991807d42800481, 0x0⟩,
  ⟨12, 4, 0x80000080c04480784f, 0x0⟩,
  ⟨12, 4, 0x80000080c04480784f, 0x0⟩,
  ⟨12, 3, 0x800000807c83805971814008800481, 0x0⟩,
  ⟨12, 4, 0x40f05780000082b8e081f04f, 0x0⟩,
  ⟨12, 3, 0x80000046d827509c1d80353c800666, 0x0⟩,
  ⟨12, 3, 0x800000814d3c800543, 0x0⟩,
  ⟨12, 3, 0x80000080f99181c942815c81, 0x0⟩,
  ⟨12, 4, 0x80000080c04480784f, 0x0⟩,
  ⟨12, 4, 0x80000080a844809c4f, 0x0⟩,
  ⟨12, 4, 0x41285780000081f4e082bc4f, 0x0⟩,
  ⟨12, 4, 0x412c5780000082c0e081f84f, 0x0⟩]

/-- States 2240 to 2303. -/
def states2240 : List PackedRow := [
  ⟨12, 4, 0x80000080a844809c4f, 0x0⟩,
  ⟨12, 4, 0x80000080a844809c4f, 0x0⟩,
  ⟨12, 4, 0x41505780000081fce082c44f, 0x0⟩,
  ⟨12, 4, 0x80000081ac4482444f, 0x0⟩,
  ⟨8, 2, 0x281443388c2980000044d40544d004069803800c6c1c643416502a06c008294820388879, 0x45d8214d701f388c11⟩,
  ⟨8, 2, 0x281443388c2980000027e80e44d40544d004069803800c6c1c643416502a06c008294820388878, 0x45d8214d701f388c11⟩,
  ⟨13, 4, 0x21990a8000008314f2, 0x0⟩,
  ⟨12, 4, 0x800000807c9080588a0768088004e3, 0x0⟩,
  ⟨12, 3, 0x99042105c3d39b40680000018b40a096c4109683302940109642c096016095c15095839095412095030094c3f09483e45a827518c1d09418605880383888988247e041c0211f42d10583609442e, 0x16540f18b0134d6c12⟩,
  ⟨8, 2, 0x281443388c2980000044d40544d004069803800c6c25303416502a06c008294820388879, 0x45d8214d701f388c11⟩,
  ⟨8, 2, 0x281443388c2980000027e80e44d40544d004069803800c6c25303416502a06c008294820388878, 0x45d8214d701f388c11⟩,
  ⟨12, 3, 0x80583c800000807d92800543, 0x0⟩,
  ⟨12, 3, 0x80f83c80000081c992815d43, 0x0⟩,
  ⟨8, 2, 0x281443388c2980000044d40544d004069803800c6c26683416502a06c008294820388879, 0x45d8214d701f388c11⟩,
  ⟨8, 2, 0x281443388c2980000027e80e44d40544d004069803800c6c26683416502a06c008294820388878, 0x45d8214d701f388c11⟩,
  ⟨8, 5, 0x800000800c71816c34803c2a06c00880907c, 0x45d82145d41f⟩,
  ⟨8, 5, 0x800000800c71816c34803c2a06c00880847c, 0x45d82145d41f⟩,
  ⟨12, 4, 0x80000081449080c48a80800880a4e3, 0x0⟩,
  ⟨12, 4, 0x80000081489080e48a80ac0880d0e3, 0x0⟩,
  ⟨8, 5, 0x800000800c71817034803c2a06c00880907c, 0x45d8214d701f⟩,
  ⟨8, 5, 0x800000800c71817034803c2a06c00880847c, 0x45d8214d701f⟩,
  ⟨12, 3, 0x80000081448380c4c580810d80a481, 0x0⟩,
  ⟨12, 3, 0x80000081488380e4c580ad0d80d081, 0x0⟩,
  ⟨8, 5, 0x800000800c71817834803c2a06c00880907c, 0x45d8214d701f⟩,
  ⟨8, 5, 0x800000800c71817834803c2a06c00880847c, 0x45d8214d701f⟩,
  ⟨8, 5, 0x800000800c71817434803c2a06c00880907c, 0x45d8214d701f⟩,
  ⟨8, 5, 0x800000800c71817434803c2a06c00880847c, 0x45d8214d701f⟩,
  ⟨8, 5, 0x800000800c71817c34803c2a06c00880907c, 0x45d8214d701f⟩,
  ⟨8, 5, 0x800000800c71817c34803c2a06c00880847c, 0x45d8214d701f⟩,
  ⟨12, 3, 0x8d042105c3d39b40680000018b40a08ac4108a83302880108a42c08a016089c15089839089412089030088c3f08883e45a827518c1d058803073024088031041c0211f42d10583608842e, 0x16540f18b0134d6c12⟩,
  ⟨12, 3, 0x93042105c3d39b40680000018b40a090c41090833028c0109042c09001608fc1508f83908f41208f03008ec3f08e83e45a827518c1d2f544505880308e031041c0211f42d10583608e42e, 0x16540f18b0134d6c12⟩,
  ⟨12, 3, 0x8d042105c3d39b40680000018b40a08ac4108a83302880108a42c08a016089c15089839089412089030088c3f08883e45a827518c1d058803088031041c0211f42d85203410583608842e, 0x16540f18b0134d6c12⟩,
  ⟨8, 5, 0x28684339d42980000044d40544d004069803800c8c2a1020388879, 0x39d411⟩,
  ⟨8, 5, 0x286c4339f02980000044d40544d004069803800c8c2a1420388879, 0x39f011⟩,
  ⟨8, 5, 0x2870433a002980000044d40544d004069803800c8c2a1820388879, 0x3a0011⟩,
  ⟨8, 5, 0x2874433a042980000044d40544d004069803800c8c2a1c20388879, 0x3a0411⟩,
  ⟨12, 3, 0x8d042105c3d39b40680000018b40a08ac4108a83302880108a42c08a016089c15089839089412089030088c3f08883e45a827518c1d058803080c24088031041c0211f42d10583608842e, 0x16540f18b0134d6c12⟩,
  ⟨12, 3, 0x8d042105c3d39b40680000018b40a08ac4108a83302880108a42c08a016089c15089839089412089030088c3f08883e45a827518c1d05880308c024088031041c0211f42d10583608842e, 0x16540f18b0134d6c12⟩,
  ⟨12, 3, 0x93042105c3d39b40680000018b40a090c41090833028c0109042c09001608fc1508f83908f41208f03008ec3f08e83e45a827518c1d80644505880308e031041c0211f42d10583608e42e, 0x16540f18b0134d6c12⟩,
  ⟨12, 3, 0x93042105c3d39b40680000018b40a090c41090833028c0109042c09001608fc1508f83908f41208f03008ec3f08e83e45a827518c1d80a04505880308e031041c0211f42d10583608e42e, 0x16540f18b0134d6c12⟩,
  ⟨12, 3, 0x93042105c3d39b40680000018b40a090c41090833028c0109042c09001608fc1508f83908f41208f03008ec3f08e83e45a827518c1d81b84505880308e031041c0211f42d10583608e42e, 0x16540f18b0134d6c12⟩,
  ⟨12, 3, 0x93042105c3d39b40680000018b40a090c41090833028c0109042c09001608fc1508f83908f41208f03008ec3f08e83e45a827518c1d80a04505880308e031041c0211f42d10583608e42e, 0x16540f18b0134d6c12⟩,
  ⟨12, 3, 0x93042105c3d39b40680000018b40a090c41090833028c0109042c09001608fc1508f83908f41208f03008ec3f08e83e45a827518c1d80644505880308e031041c0211f42d10583608e42e, 0x16540f18b0134d6c12⟩,
  ⟨12, 3, 0x39b40680000018b40a028c0109042c09001608f03045a827518c1d058803041c0280226708e42e, 0x16540f18b0134d6c12⟩,
  ⟨12, 3, 0x39b40680000018b40a839c0109042c45a827518c1d058803041c02802268, 0x16540f18b0134d6c12⟩,
  ⟨12, 3, 0x39b40680000018b40a090833028c0109042c09001608fc1508f83908f41208f03045a827518c1d05880308e031041c0280226908e42e, 0x16540f18b0134d6c12⟩,
  ⟨12, 3, 0x39b40680000018b40a090833028c0109042c09001608fc1508f83908f41208f03008e83e45a827518c1d05880308e031041c0280226a08e42e, 0x16540f18b0134d6c12⟩,
  ⟨12, 3, 0x39b40680000018b40a839c0109042c09001645a827518c1d058803041c0280226b08e42e, 0x16540f18b0134d6c12⟩,
  ⟨12, 3, 0x39b40680000018b40a090833028c0109042c09001608f03045a827518c1d05880308e031041c0280226c08e42e, 0x16540f18b0134d6c12⟩,
  ⟨12, 3, 0x39b40680000018b40a090833028c0109042c09001608f41208f03045a827518c1d05880308e031041c0280226d08e42e, 0x16540f18b0134d6c12⟩,
  ⟨12, 3, 0x39b40680000018b40a090833028c0109042c09001608f83908f41208f03045a827518c1d05880308e031041c0280226e08e42e, 0x16540f18b0134d6c12⟩,
  ⟨12, 3, 0x39b40680000018b40a839c0109042c45a827518c1d058803041c0280226f08e42e, 0x16540f18b0134d6c12⟩,
  ⟨12, 3, 0x105c3d39b40680000018b40a839c0109042c45a827518c1d058803041c0211f42d105836802270, 0x16540f18b0134d6c12⟩,
  ⟨12, 3, 0x39b40680000018b40a028c0109042c09001608f03045a827518c1d05880308e031041c0280227108e42e, 0x16540f18b0134d6c12⟩,
  ⟨12, 3, 0x39b40680000018b40a090833028c0109042c09001608fc1508f83908f41208f03008ec3f08e83e45a827518c1d05880308e031041c0280227208e42e, 0x16540f18b0134d6c12⟩,
  ⟨12, 3, 0x93042105c3d39b40680000018b40a090c41090833028c0109042c09001608fc1508f83908f41208f03008ec3f08e83e45a827518c1d80644505880308e031041c0211f42d10583608e42e, 0x16540f18b0134d6c12⟩,
  ⟨12, 3, 0x93042105c3d39b40680000018b40a090c41090833028c0109042c09001608fc1508f83908f41208f03008ec3f08e83e45a827518c1d81bc4505880308e031041c0211f42d10583608e42e, 0x16540f18b0134d6c12⟩,
  ⟨12, 3, 0x93042105c3d39b40680000018b40a090c41090833028c0109042c09001608fc1508f83908f41208f03008ec3f08e83e45a827518c1d80684505880308e031041c0211f42d10583608e42e, 0x16540f18b0134d6c12⟩,
  ⟨12, 3, 0x93042105c3d39b40680000018b40a090c41090833028c0109042c09001608fc1508f83908f41208f03008ec3f08e83e45a827518c1d80684505880308e031041c0211f42d10583608e42e, 0x16540f18b0134d6c12⟩,
  ⟨12, 3, 0x93042105c3d39b40680000018b40a090c41090833028c0109042c09001608fc1508f83908f41208f03008ec3f08e83e45a827518c1d80684505880308e031041c0211f42d10583608e42e, 0x16540f18b0134d6c12⟩,
  ⟨12, 3, 0x93042105c3d39b40680000018b40a090c41090833028c0109042c09001608fc1508f83908f41208f03008ec3f08e83e45a827518c1d80cc4505880308e031041c0211f42d10583608e42e, 0x16540f18b0134d6c12⟩,
  ⟨12, 3, 0x93042105c3d39b40680000018b40a090c41090833028c0109042c09001608fc1508f83908f41208f03008ec3f08e83e45a827518c1d80cc4505880308e031041c0211f42d10583608e42e, 0x16540f18b0134d6c12⟩,
  ⟨12, 3, 0x93042105c3d39b40680000018b40a090c41090833028c0109042c09001608fc1508f83908f41208f03008ec3f08e83e45a827518c1d81c04505880308e031041c0211f42d10583608e42e, 0x16540f18b0134d6c12⟩,
  ⟨12, 3, 0x39b40680000018b40a88280145a827518c1d058803041c02818673, 0x16540f18b0134d6c12⟩]

/-- States 2304 to 2367. -/
def states2304 : List PackedRow := [
  ⟨12, 3, 0x105c3d39b40680000018b40a882c0145a827518c1d058803041c0211f42d105836818a74, 0x16540f18b0134d6c12⟩,
  ⟨12, 3, 0x93042105c3d39b40680000018b40a090c41090833028c0109042c09001608fc1508f83908f41208f03008ec3f08e83e45a827518c1d81b44505880308e031041c0211f42d10583608e42e, 0x16540f18b0134d6c12⟩,
  ⟨12, 3, 0x39b40680000088300145a827518c1d058803041c02811e75, 0x16540f18b0134d6c12⟩,
  ⟨12, 3, 0x8d042105c3d39b40680000018b40a08ac4108a83302880108a42c08a016089c15089839089412089030088c3f08883e45a827518c1d058803092024088031041c0211f42d10583608842e, 0x16540f18b0134d6c12⟩,
  ⟨12, 3, 0x8d042105c3d39b40680000018b40a08ac4108a83302880108a42c08a016089c15089839089412089030088c3f08883e45a827518c1d058803098024088031041c0211f42d10583608842e, 0x16540f18b0134d6c12⟩,
  ⟨12, 3, 0x8d042105c3d39b40680000018b40a08ac4108a83302880108a42c08a016089c15089839089412089030088c3f08883e45a827518c1d05880307b824088031041c0211f42d10583608842e, 0x16540f18b0134d6c12⟩,
  ⟨12, 3, 0x80583c800000807c9b09ac08800572, 0x0⟩,
  ⟨12, 3, 0x800000807c9080588a087c08800573, 0x0⟩,
  ⟨12, 3, 0x8d042105c3d39b40680000018b40a08ac4108a83302880108a42c08a016089c15089839089412089030088c3f08883e45a827518c1d05880309f024088031041c0211f42d10583608842e, 0x16540f18b0134d6c12⟩,
  ⟨12, 3, 0x99042105c3d39b40680000018b40a096c4109683302940109642c096016095c15095839095412095030094c3f09483e45a827518c1d058803806489094031041c0211f42d10583609442e, 0x16540f18b0134d6c12⟩,
  ⟨12, 3, 0x99042105c3d39b40680000018b40a096c4109683302940109642c096016095c15095839095412095030094c3f09483e45a827518c1d05880380a089094031041c0211f42d10583609442e, 0x16540f18b0134d6c12⟩,
  ⟨12, 3, 0x99042105c3d39b40680000018b40a096c4109683302940109642c096016095c15095839095412095030094c3f09483e45a827518c1d05880381b889094031041c0211f42d10583609442e, 0x16540f18b0134d6c12⟩,
  ⟨12, 3, 0x99042105c3d39b40680000018b40a096c4109683302940109642c096016095c15095839095412095030094c3f09483e45a827518c1d05880380a089094031041c0211f42d10583609442e, 0x16540f18b0134d6c12⟩,
  ⟨12, 3, 0x99042105c3d39b40680000018b40a096c4109683302940109642c096016095c15095839095412095030094c3f09483e45a827518c1d058803806489094031041c0211f42d10583609442e, 0x16540f18b0134d6c12⟩,
  ⟨12, 3, 0x39b40680000018b40a02940109642c09601609503045a827518c1d058803041c0280227609442e, 0x16540f18b0134d6c12⟩,
  ⟨12, 3, 0x39b40680000018b40a83a00109642c45a827518c1d058803041c02802277, 0x16540f18b0134d6c12⟩,
  ⟨12, 3, 0x39b40680000018b40a09683302940109642c096016095c1509583909541209503045a827518c1d058803094031041c0280227809442e, 0x16540f18b0134d6c12⟩,
  ⟨12, 3, 0x39b40680000018b40a09683302940109642c096016095c1509583909541209503009483e45a827518c1d058803094031041c0280227909442e, 0x16540f18b0134d6c12⟩,
  ⟨12, 3, 0x39b40680000018b40a83a00109642c09601645a827518c1d058803041c0280227a09442e, 0x16540f18b0134d6c12⟩,
  ⟨12, 3, 0x39b40680000018b40a09683302940109642c09601609503045a827518c1d058803094031041c0280227b09442e, 0x16540f18b0134d6c12⟩,
  ⟨12, 3, 0x39b40680000018b40a09683302940109642c09601609541209503045a827518c1d058803094031041c0280227c09442e, 0x16540f18b0134d6c12⟩,
  ⟨12, 3, 0x39b40680000018b40a09683302940109642c09601609583909541209503045a827518c1d058803094031041c0280227d09442e, 0x16540f18b0134d6c12⟩,
  ⟨12, 3, 0x39b40680000018b40a83a00109642c45a827518c1d058803041c0280227e09442e, 0x16540f18b0134d6c12⟩,
  ⟨12, 3, 0x105c3d39b40680000018b40a83a00109642c45a827518c1d058803041c0211f42d10583680227f, 0x16540f18b0134d6c12⟩,
  ⟨12, 3, 0x39b40680000018b40a02940109642c09601609503045a827518c1d058803094031041c0280228009442e, 0x16540f18b0134d6c12⟩,
  ⟨12, 3, 0x39b40680000018b40a09683302940109642c096016095c15095839095412095030094c3f09483e45a827518c1d058803094031041c0280228109442e, 0x16540f18b0134d6c12⟩,
  ⟨12, 3, 0x99042105c3d39b40680000018b40a096c4109683302940109642c096016095c15095839095412095030094c3f09483e45a827518c1d058803806489094031041c0211f42d10583609442e, 0x16540f18b0134d6c12⟩,
  ⟨12, 3, 0x99042105c3d39b40680000018b40a096c4109683302940109642c096016095c15095839095412095030094c3f09483e45a827518c1d05880381bc89094031041c0211f42d10583609442e, 0x16540f18b0134d6c12⟩,
  ⟨12, 3, 0x99042105c3d39b40680000018b40a096c4109683302940109642c096016095c15095839095412095030094c3f09483e45a827518c1d058803806889094031041c0211f42d10583609442e, 0x16540f18b0134d6c12⟩,
  ⟨12, 3, 0x99042105c3d39b40680000018b40a096c4109683302940109642c096016095c15095839095412095030094c3f09483e45a827518c1d058803806889094031041c0211f42d10583609442e, 0x16540f18b0134d6c12⟩,
  ⟨12, 3, 0x99042105c3d39b40680000018b40a096c4109683302940109642c096016095c15095839095412095030094c3f09483e45a827518c1d058803806889094031041c0211f42d10583609442e, 0x16540f18b0134d6c12⟩,
  ⟨12, 3, 0x99042105c3d39b40680000018b40a096c4109683302940109642c096016095c15095839095412095030094c3f09483e45a827518c1d05880380cc89094031041c0211f42d10583609442e, 0x16540f18b0134d6c12⟩,
  ⟨12, 3, 0x99042105c3d39b40680000018b40a096c4109683302940109642c096016095c15095839095412095030094c3f09483e45a827518c1d05880380cc89094031041c0211f42d10583609442e, 0x16540f18b0134d6c12⟩,
  ⟨12, 3, 0x99042105c3d39b40680000018b40a096c4109683302940109642c096016095c15095839095412095030094c3f09483e45a827518c1d05880381c089094031041c0211f42d10583609442e, 0x16540f18b0134d6c12⟩,
  ⟨12, 3, 0x39b40680000018b40a88340145a827518c1d058803041c02818682, 0x16540f18b0134d6c12⟩,
  ⟨12, 3, 0x105c3d39b40680000018b40a88380145a827518c1d058803041c0211f42d105836818a83, 0x16540f18b0134d6c12⟩,
  ⟨12, 3, 0x99042105c3d39b40680000018b40a096c4109683302940109642c096016095c15095839095412095030094c3f09483e45a827518c1d05880381b489094031041c0211f42d10583609442e, 0x16540f18b0134d6c12⟩,
  ⟨12, 3, 0x39b406800000883c0145a827518c1d058803041c02811e84, 0x16540f18b0134d6c12⟩,
  ⟨12, 4, 0x8000000824088004f2, 0x0⟩,
  ⟨12, 3, 0x8d042105c3d39b40680000018b40a08ac4108a83302880108a42c08a016089c15089839089412089030088c3f08883e45a827518c1d058803086c24088031041c0211f42d10583608842e, 0x16540f18b0134d6c12⟩,
  ⟨12, 3, 0x82c42105c3d385c0680000018b40a07f84107f43302800107f02c07ec1607e81507e43907e01207dc3007d83f07d43e45a8274f281d05240307cc3104100213b82d10583607d02e, 0x27200f20b81345ac12⟩,
  ⟨8, 2, 0x28e84928144327ec26388c2980000027e80e44d40544d004069803800c6c823c6706c00829482038888d, 0x28ec22388c11⟩,
  ⟨12, 3, 0x8000008160db06e40880044f, 0x0⟩,
  ⟨1, 2, 0x28004927fc5627384326ac2626005935442980000006b84e26a80e44d40544d00406980388406729442038b4cc, 0x28e4222890273544114f5440⟩,
  ⟨8, 2, 0x388c2980000044d40544d004069803800c6c1d6c3416502a06c008388847, 0x45d82145d41f388c11⟩,
  ⟨12, 3, 0x80000005488982747e06e4088004dd, 0x0⟩,
  ⟨8, 5, 0x38cc2980000044d40544d004069803800c73388847, 0x38cc11⟩,
  ⟨1, 2, 0x296c9e29682224dc491d7c561a884b24c8431dac261da8594dd00f2ca029800000216c0e44280544240407a4032a20202f4cbd, 0x286005290022280427273c592934042ca011⟩,
  ⟨8, 5, 0x31ac2980000044280544240407a403800c732f4c47, 0x31ac11⟩,
  ⟨8, 5, 0x38f82980000044d40544d004069803800c73388847, 0x38f811⟩,
  ⟨8, 5, 0x3a682980000044d40544d004069803800c73388847, 0x3a6811⟩,
  ⟨8, 5, 0x39002980000044d40544d004069803800c8c388847, 0x390011⟩,
  ⟨8, 2, 0x28e84928144327ec26388c2980000027e80e44d40544d004069803800c6c50e83424ac2a29482038888d, 0x4de01f28ec22388c11⟩,
  ⟨8, 5, 0x31c02980000044280544240407a403800c732f4c47, 0x31c011⟩,
  ⟨8, 5, 0x3a702980000044d40544d004069803800c73388847, 0x3a7011⟩,
  ⟨8, 5, 0x800000800d2780847c, 0x0⟩,
  ⟨8, 2, 0x388c2980000044d40544d004069803800c6c1ab83416502a06c008388847, 0x45d8214d701f388c11⟩,
  ⟨8, 5, 0x3a842980000044d40544d004069803800c73388847, 0x3a8411⟩,
  ⟨8, 5, 0x38f42980000044d40544d004069803800c73388847, 0x38f411⟩,
  ⟨8, 5, 0x3a882980000044d40544d004069803800c73388847, 0x3a8811⟩,
  ⟨8, 5, 0x391c2980000044d40544d004069803800c73388847, 0x391c11⟩,
  ⟨8, 5, 0x39202980000044d40544d004069803800c73388847, 0x392011⟩,
  ⟨8, 5, 0x39282980000044d40544d004069803800c8c388847, 0x392811⟩,
  ⟨8, 5, 0x3a8c2980000044d40544d004069803800c73388847, 0x3a8c11⟩]

/-- States 2368 to 2431. -/
def states2368 : List PackedRow := [
  ⟨8, 5, 0x39402980000044d40544d004069803800c73388847, 0x394011⟩,
  ⟨8, 5, 0x39482980000044d40544d004069803800c8c388847, 0x394811⟩,
  ⟨8, 5, 0x39582980000044d40544d004069803800c73388847, 0x395811⟩,
  ⟨8, 5, 0x395c2980000044d40544d004069803800c8c388847, 0x395c11⟩,
  ⟨8, 5, 0x396c2980000044d40544d004069803800c8c388847, 0x396c11⟩,
  ⟨8, 2, 0x388c2980000044d40544d004069803800c6c19bc3416502a06c008388847, 0x45d8214d701f388c11⟩,
  ⟨13, 3, 0x194d0a8000008314f3, 0x0⟩,
  ⟨8, 2, 0x388c2980000044d40544d004069803800c6c1c643416502a06c008388847, 0x45d8214d701f388c11⟩,
  ⟨12, 3, 0x8024e4800000807542800481, 0x0⟩,
  ⟨12, 4, 0x80000080d48a80eca7, 0x0⟩,
  ⟨12, 4, 0x80000080948a80eca7, 0x0⟩,
  ⟨12, 3, 0x800000837c7e80ad4480d0dd, 0x0⟩,
  ⟨12, 3, 0x80000083807e8125448120dd, 0x0⟩,
  ⟨12, 3, 0x80000083847e80814480a4dd, 0x0⟩,
  ⟨8, 2, 0x388c2980000044d40544d004069803800c6c25303416502a06c008388847, 0x45d8214d701f388c11⟩,
  ⟨12, 4, 0x80000080749080248a8004e3, 0x0⟩,
  ⟨12, 3, 0x80583c800000807cf706e408800505, 0x0⟩,
  ⟨12, 3, 0x80000046d827509c1d8034de80058d, 0x0⟩,
  ⟨12, 3, 0x800000814cde800481, 0x0⟩,
  ⟨8, 2, 0x388c2980000044d40544d004069803800c6c26683416502a06c008388847, 0x45d8214d701f388c11⟩,
  ⟨12, 4, 0x800000807c9080588a8004e3, 0x0⟩,
  ⟨12, 4, 0x80000081c89080f88a815ce3, 0x0⟩,
  ⟨12, 3, 0x80000083809a81250d81204f, 0x0⟩,
  ⟨12, 3, 0x80c43c8000008144f780800880a505, 0x0⟩,
  ⟨12, 3, 0x80e43c8000008148f780ac0880d105, 0x0⟩,
  ⟨12, 3, 0x82c42105c3d39b40680000018b40a07f84107f43302800107f02c07ec1607e81507e43907e01207dc3007d83f07d43e45a827518c1d05880307cc31041c0211f42d10583607d02e, 0x16540f18b0134d6c12⟩,
  ⟨12, 3, 0x82c42105c3d39b40680000018b40a07f84107f43302800107f02c07ec1607e81507e43907e01207dc3007d83f07d43e45a827518c1d05880307cc31041c0211f42d10583607d02e, 0x16540f18b0134d6c12⟩,
  ⟨12, 3, 0x82c42105c3d39b40680000018b40a07f84107f43302800107f02c07ec1607e81507e43907e01207dc3007d83f07d43e45a827518c1d05880307cc31041c0211f42d10583607d02e, 0x16540f18b0134d6c12⟩,
  ⟨12, 3, 0x82c42105c3d39b40680000018b40a07f84107f43302800107f02c07ec1607e81507e43907e01207dc3007d83f07d43e45a827518c1d05880307cc31041c0211f42d10583607d02e, 0x16540f18b0134d6c12⟩,
  ⟨12, 3, 0x82c42105c3d39b40680000018b40a07f84107f43302800107f02c07ec1607e81507e43907e01207dc3007d83f07d43e45a827518c1d05880307cc31041c0211f42d10583607d02e, 0x16540f18b0134d6c12⟩,
  ⟨12, 3, 0x82c42105c3d39b40680000018b40a07f84107f43302800107f02c07ec1607e81507e43907e01207dc3007d83f07d43e45a827518c1d05880307cc31041c0211f42d10583607d02e, 0x16540f18b0134d6c12⟩,
  ⟨12, 3, 0x39b40680000018b40a02800107f02c07ec1607dc3045a827518c1d058803041c0280228507d02e, 0x16540f18b0134d6c12⟩,
  ⟨12, 3, 0x39b40680000018b40a83a40107f02c45a827518c1d058803041c02802286, 0x16540f18b0134d6c12⟩,
  ⟨12, 3, 0x39b40680000018b40a07f43302800107f02c07ec1607e81507e43907e01207dc3045a827518c1d05880307cc31041c0280228707d02e, 0x16540f18b0134d6c12⟩,
  ⟨12, 3, 0x39b40680000018b40a07f43302800107f02c07ec1607e81507e43907e01207dc3007d43e45a827518c1d05880307cc31041c0280228807d02e, 0x16540f18b0134d6c12⟩,
  ⟨12, 3, 0x39b40680000018b40a83a40107f02c07ec1645a827518c1d058803041c0280228907d02e, 0x16540f18b0134d6c12⟩,
  ⟨12, 3, 0x39b40680000018b40a07f43302800107f02c07ec1607dc3045a827518c1d05880307cc31041c0280228a07d02e, 0x16540f18b0134d6c12⟩,
  ⟨12, 3, 0x39b40680000018b40a07f43302800107f02c07ec1607e01207dc3045a827518c1d05880307cc31041c0280228b07d02e, 0x16540f18b0134d6c12⟩,
  ⟨12, 3, 0x39b40680000018b40a07f43302800107f02c07ec1607e43907e01207dc3045a827518c1d05880307cc31041c0280228c07d02e, 0x16540f18b0134d6c12⟩,
  ⟨12, 3, 0x39b40680000018b40a83a40107f02c45a827518c1d058803041c0280228d07d02e, 0x16540f18b0134d6c12⟩,
  ⟨12, 3, 0x105c3d39b40680000018b40a83a40107f02c45a827518c1d058803041c0211f42d10583680228e, 0x16540f18b0134d6c12⟩,
  ⟨12, 3, 0x39b40680000018b40a02800107f02c07ec1607dc3045a827518c1d05880307cc31041c0280228f07d02e, 0x16540f18b0134d6c12⟩,
  ⟨12, 3, 0x39b40680000018b40a07f43302800107f02c07ec1607e81507e43907e01207dc3007d83f07d43e45a827518c1d05880307cc31041c0280229007d02e, 0x16540f18b0134d6c12⟩,
  ⟨12, 3, 0x82c42105c3d39b40680000018b40a07f84107f43302800107f02c07ec1607e81507e43907e01207dc3007d83f07d43e45a827518c1d05880307cc31041c0211f42d10583607d02e, 0x16540f18b0134d6c12⟩,
  ⟨12, 3, 0x82c42105c3d39b40680000018b40a07f84107f43302800107f02c07ec1607e81507e43907e01207dc3007d83f07d43e45a827518c1d05880307cc31041c0211f42d10583607d02e, 0x16540f18b0134d6c12⟩,
  ⟨8, 5, 0x39d42980000044d40544d004069803800c8c388847, 0x39d411⟩,
  ⟨12, 3, 0x82c42105c3d39b40680000018b40a07f84107f43302800107f02c07ec1607e81507e43907e01207dc3007d83f07d43e45a827518c1d05880307cc31041c0211f42d10583607d02e, 0x16540f18b0134d6c12⟩,
  ⟨12, 3, 0x82c42105c3d39b40680000018b40a07f84107f43302800107f02c07ec1607e81507e43907e01207dc3007d83f07d43e45a827518c1d05880307cc31041c0211f42d10583607d02e, 0x16540f18b0134d6c12⟩,
  ⟨12, 3, 0x82c42105c3d39b40680000018b40a07f84107f43302800107f02c07ec1607e81507e43907e01207dc3007d83f07d43e45a827518c1d05880307cc31041c0211f42d10583607d02e, 0x16540f18b0134d6c12⟩,
  ⟨12, 3, 0x82c42105c3d39b40680000018b40a07f84107f43302800107f02c07ec1607e81507e43907e01207dc3007d83f07d43e45a827518c1d05880307cc31041c0211f42d10583607d02e, 0x16540f18b0134d6c12⟩,
  ⟨12, 3, 0x82c42105c3d39b40680000018b40a07f84107f43302800107f02c07ec1607e81507e43907e01207dc3007d83f07d43e45a827518c1d05880307cc31041c0211f42d10583607d02e, 0x16540f18b0134d6c12⟩,
  ⟨8, 5, 0x39f02980000044d40544d004069803800c8c388847, 0x39f011⟩,
  ⟨12, 3, 0x82c42105c3d39b40680000018b40a07f84107f43302800107f02c07ec1607e81507e43907e01207dc3007d83f07d43e45a827518c1d05880307cc31041c0211f42d10583607d02e, 0x16540f18b0134d6c12⟩,
  ⟨8, 5, 0x3a002980000044d40544d004069803800c8c388847, 0x3a0011⟩,
  ⟨8, 5, 0x3a042980000044d40544d004069803800c8c388847, 0x3a0411⟩,
  ⟨12, 3, 0x39b40680000018b40a88440145a827518c1d058803041c02818691, 0x16540f18b0134d6c12⟩,
  ⟨12, 3, 0x105c3d39b40680000018b40a88480145a827518c1d058803041c0211f42d105836818a92, 0x16540f18b0134d6c12⟩,
  ⟨12, 3, 0x82c42105c3d39b40680000018b40a07f84107f43302800107f02c07ec1607e81507e43907e01207dc3007d83f07d43e45a827518c1d05880307cc31041c0211f42d10583607d02e, 0x16540f18b0134d6c12⟩,
  ⟨12, 3, 0x39b406800000884c0145a827518c1d058803041c02811e93, 0x16540f18b0134d6c12⟩,
  ⟨12, 3, 0x800000807c9080588a08dc08800576, 0x0⟩,
  ⟨12, 3, 0x800000807c9080588a093c08800577, 0x0⟩,
  ⟨12, 3, 0x80000009ac088004f3, 0x0⟩,
  ⟨8, 2, 0x281443388c2980000044d40544d004069803800c6c823c6706c008294820388879, 0x388c11⟩,
  ⟨8, 2, 0x281443388c2980000027e80e44d40544d004069803800c6c823c6706c008294820388878, 0x388c11⟩]

/-- States 2432 to 2495. -/
def states2432 : List PackedRow := [
  ⟨8, 2, 0x28e84928144327ec26388c2980000027e80e44d40544d004069803800c6c818c6729482038888d, 0x28ec22388c11⟩,
  ⟨12, 3, 0x80000080fca688504f, 0x0⟩,
  ⟨1, 5, 0x24dc4924d42631ac2980000044280544240407a403800c8e2f4d0e, 0x297c2231ac11⟩,
  ⟨1, 5, 0x29802231ac2980000044280544240407a403800c8e2f4c47, 0x31ac11⟩,
  ⟨8, 2, 0x281443388c2980000044d40544d004069803800c6c50e83424ac2a294820388879, 0x4de01f388c11⟩,
  ⟨8, 2, 0x281443388c2980000027e80e44d40544d004069803800c6c50e83424ac2a294820388878, 0x4de01f388c11⟩,
  ⟨12, 3, 0x8000008078a6840c4f, 0x0⟩,
  ⟨12, 3, 0x8000008078a6840c4f, 0x0⟩,
  ⟨12, 3, 0x8000008078a6840c4f, 0x0⟩,
  ⟨1, 5, 0x24dc4926b82631c02980000044280544240407a403800c8e2f4d0e, 0x29ac2231c011⟩,
  ⟨1, 5, 0x29b02231c02980000044280544240407a403800c8e2f4c47, 0x31c011⟩,
  ⟨1, 5, 0x24dc4926bc2631c82980000044280544240407a403800c8e2f4d0e, 0x29b82231c811⟩,
  ⟨1, 5, 0x29bc2231cc2980000044280544240407a403800c8e2f4c47, 0x31cc11⟩,
  ⟨12, 3, 0x800000809ca684104f, 0x0⟩,
  ⟨12, 3, 0x800000809ca684104f, 0x0⟩,
  ⟨12, 3, 0x800000809ca684104f, 0x0⟩,
  ⟨1, 5, 0x24dc4926d42632042980000044280544240407a403800c8e2f4d0e, 0x29e822320411⟩,
  ⟨1, 5, 0x29ec2232082980000044280544240407a403800c8e2f4c47, 0x320811⟩,
  ⟨1, 5, 0x24dc4926e02632202980000044280544240407a403800c8e2f4d0e, 0x29f022322011⟩,
  ⟨1, 5, 0x29f42232242980000044280544240407a403800c8e2f4c47, 0x322411⟩,
  ⟨12, 3, 0x8000008244a688544f, 0x0⟩,
  ⟨8, 5, 0x800000800c7181806706c00880907c, 0x0⟩,
  ⟨8, 5, 0x800000800c7181806706c00880847c, 0x0⟩,
  ⟨12, 3, 0x800000805c4580302a82dc0880044f, 0x0⟩,
  ⟨12, 3, 0x800000807c9080588a07c808800579, 0x0⟩,
  ⟨12, 3, 0x800000837c4580ad4580d04f, 0x0⟩,
  ⟨12, 3, 0x80000083804581254581204f, 0x0⟩,
  ⟨12, 3, 0x80000083844580814580a44f, 0x0⟩,
  ⟨1, 2, 0x800000820d46, 0x0⟩,
  ⟨12, 3, 0x8000008074838024c5800481, 0x0⟩,
  ⟨1, 2, 0x800000821146, 0x0⟩,
  ⟨12, 3, 0x80000080d48a80ecbe, 0x0⟩,
  ⟨1, 2, 0x800000821546, 0x0⟩,
  ⟨12, 3, 0x80000080948a80ecbe, 0x0⟩,
  ⟨12, 3, 0x80243c8000008074f7800505, 0x0⟩,
  ⟨12, 3, 0x800000807c838058c5800481, 0x0⟩,
  ⟨12, 3, 0x80000081c88380f8c5815c81, 0x0⟩,
  ⟨12, 4, 0x8000000768088004a7, 0x0⟩,
  ⟨12, 3, 0x800000087c08800504, 0x0⟩,
  ⟨8, 2, 0x388c2980000044d40544d004069803800c6c823c6706c008388847, 0x388c11⟩,
  ⟨8, 2, 0x800000800c6c1d6c3416502a06c00880907c, 0x45d82145d41f⟩,
  ⟨8, 2, 0x800000800c6c1d6c3416502a06c00880847c, 0x45d82145d41f⟩,
  ⟨8, 2, 0x281443388c2980000044d40544d004069803800c6c818c67294820388879, 0x388c11⟩,
  ⟨8, 2, 0x281443388c2980000027e80e44d40544d004069803800c6c818c67294820388878, 0x388c11⟩,
  ⟨8, 2, 0x388c2980000044d40544d004069803800c6c50e83424ac2a388847, 0x4de01f388c11⟩,
  ⟨1, 5, 0x31e02980000044280544240407a403800c8e2f4c47, 0x31e011⟩,
  ⟨1, 5, 0x31f02980000044280544240407a403800c8e2f4c47, 0x31f011⟩,
  ⟨1, 5, 0x31f42980000044280544240407a403800c8e2f4c47, 0x31f411⟩,
  ⟨1, 5, 0x32002980000044280544240407a403800c8e2f4c47, 0x320011⟩,
  ⟨1, 5, 0x32182980000044280544240407a403800c8e2f4c47, 0x321811⟩,
  ⟨1, 5, 0x32342980000044280544240407a403800c8e2f4c47, 0x323411⟩,
  ⟨1, 5, 0x32382980000044280544240407a403800c8e2f4c47, 0x323811⟩,
  ⟨1, 5, 0x323c2980000044280544240407a403800c8e2f4c47, 0x323c11⟩,
  ⟨1, 5, 0x32402980000044280544240407a403800c8e2f4c47, 0x324011⟩,
  ⟨1, 5, 0x324c2980000044280544240407a403800c8e2f4c47, 0x324c11⟩,
  ⟨1, 5, 0x32502980000044280544240407a403800c8e2f4c47, 0x325011⟩,
  ⟨1, 5, 0x32542980000044280544240407a403800c8e2f4c47, 0x325411⟩,
  ⟨1, 5, 0x32602980000044280544240407a403800c8e2f4c47, 0x326011⟩,
  ⟨1, 5, 0x32642980000044280544240407a403800c8e2f4c47, 0x326411⟩,
  ⟨1, 5, 0x32682980000044280544240407a403800c8e2f4c47, 0x326811⟩,
  ⟨1, 5, 0x326c2980000044280544240407a403800c8e2f4c47, 0x326c11⟩,
  ⟨8, 2, 0x800000800c6c1ab83416502a06c00880907c, 0x45d8214d701f⟩,
  ⟨8, 2, 0x800000800c6c1ab83416502a06c00880847c, 0x45d8214d701f⟩,
  ⟨8, 2, 0x800000800c6c19bc3416502a06c00880907c, 0x45d8214d701f⟩]

/-- States 2496 to 2559. -/
def states2496 : List PackedRow := [
  ⟨8, 2, 0x800000800c6c19bc3416502a06c00880847c, 0x45d8214d701f⟩,
  ⟨8, 2, 0x800000800c6c1c643416502a06c00880907c, 0x45d8214d701f⟩,
  ⟨8, 2, 0x800000800c6c1c643416502a06c00880847c, 0x45d8214d701f⟩,
  ⟨8, 2, 0x800000800c6c25303416502a06c00880907c, 0x45d8214d701f⟩,
  ⟨8, 2, 0x800000800c6c25303416502a06c00880847c, 0x45d8214d701f⟩,
  ⟨13, 3, 0x194d0a8000008314cb, 0x0⟩,
  ⟨8, 2, 0x800000800c6c26683416502a06c00880907c, 0x45d8214d701f⟩,
  ⟨8, 2, 0x800000800c6c26683416502a06c00880847c, 0x45d8214d701f⟩,
  ⟨12, 3, 0x385c06800000041002834990, 0x211813⟩,
  ⟨12, 3, 0x80000005488982747e07c8088004f5, 0x0⟩,
  ⟨12, 3, 0x80000008dc088004be, 0x0⟩,
  ⟨12, 3, 0x800000093c088004cb, 0x0⟩,
  ⟨12, 3, 0x80000006b40880044f, 0x0⟩,
  ⟨8, 5, 0x27c457800000885c46885993, 0x0⟩,
  ⟨8, 2, 0x388c2980000044d40544d004069803800c6c818c67388847, 0x388c11⟩,
  ⟨8, 5, 0x27d45780000088604683f593, 0x0⟩,
  ⟨8, 5, 0x800000852ca9, 0x0⟩,
  ⟨8, 5, 0x80000083a8a9, 0x0⟩,
  ⟨8, 5, 0x80000083a8a9, 0x0⟩,
  ⟨8, 5, 0x80000083aca9, 0x0⟩,
  ⟨8, 5, 0x80000083aca9, 0x0⟩,
  ⟨8, 5, 0x80000083b0a9, 0x0⟩,
  ⟨8, 5, 0x80000083b0a9, 0x0⟩,
  ⟨8, 5, 0x80000083b4a9, 0x0⟩,
  ⟨8, 5, 0x80000083b4a9, 0x0⟩,
  ⟨8, 5, 0x80000083b8a9, 0x0⟩,
  ⟨8, 5, 0x80000083b8a9, 0x0⟩,
  ⟨8, 5, 0x80000083bca9, 0x0⟩,
  ⟨8, 5, 0x80000083bca9, 0x0⟩,
  ⟨8, 5, 0x8000008530a9, 0x0⟩,
  ⟨8, 5, 0x27e05780000080e8c6, 0x0⟩,
  ⟨8, 5, 0x27dc578000008118c6, 0x0⟩,
  ⟨8, 5, 0x80000080e8a9, 0x0⟩,
  ⟨8, 5, 0x2780578000008118c6, 0x0⟩,
  ⟨8, 5, 0x8000008208a9, 0x0⟩,
  ⟨12, 3, 0x80000007280880044f, 0x0⟩,
  ⟨8, 2, 0x8000000edc01547c1d04280282d90f, 0x51b00f293c29⟩,
  ⟨8, 5, 0x27885780000080e8c6, 0x0⟩,
  ⟨12, 3, 0x80000008040880044f, 0x0⟩,
  ⟨12, 3, 0x80000008b80880044f, 0x0⟩,
  ⟨12, 3, 0x80000009180880044f, 0x0⟩,
  ⟨12, 3, 0x80000009780880044f, 0x0⟩,
  ⟨12, 3, 0x80000007ac0880044f, 0x0⟩,
  ⟨12, 3, 0x80000009e80880044f, 0x0⟩,
  ⟨12, 3, 0x80000008640880044f, 0x0⟩,
  ⟨8, 2, 0x800000800c6c823c6706c00880907c, 0x0⟩,
  ⟨8, 2, 0x800000800c6c823c6706c00880847c, 0x0⟩,
  ⟨8, 2, 0x28e84928184327f82638b02980000027f40e44d40544d004069803800c7a29542038888d, 0x28f42238b011⟩,
  ⟨8, 2, 0x8000008864c6, 0x0⟩,
  ⟨8, 2, 0x80000083f4c6, 0x0⟩,
  ⟨8, 2, 0x80000084e694, 0x0⟩,
  ⟨8, 2, 0x800000800c6c50e83424ac2a80907c, 0x4de01f⟩,
  ⟨8, 2, 0x800000800c6c50e83424ac2a80847c, 0x4de01f⟩,
  ⟨8, 2, 0x8000008534c6, 0x0⟩,
  ⟨8, 2, 0x8000008534c6, 0x0⟩,
  ⟨8, 2, 0x80000080e8c6, 0x0⟩,
  ⟨8, 2, 0x8000008208c6, 0x0⟩,
  ⟨8, 2, 0x38b02980000005302544d40544d004069803800c7a388847, 0x38b011⟩,
  ⟨8, 2, 0x28184338b02980000044d40544d004069803800c7a295420388879, 0x38b011⟩,
  ⟨8, 2, 0x28184338b02980000027f40e44d40544d004069803800c7a295420388878, 0x38b011⟩,
  ⟨1, 2, 0x295c9e28a02224dc491bc84b24e8431da4261da0592c982980000021640e44280544240407a4032958202f4d94, 0x28f8222c9811⟩,
  ⟨8, 2, 0x28244338e82980000044d40544d004069803800c7a297420388879, 0x38e811⟩,
  ⟨8, 2, 0x28244338e82980000028080e44d40544d004069803800c7a297420388878, 0x38e811⟩,
  ⟨8, 2, 0x800000800c6c818c6780907c, 0x0⟩]

end JsxDetect.Automaton
